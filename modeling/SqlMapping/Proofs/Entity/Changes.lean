import Mathlib.Tactic.SplitIfs
import SqlMapping.Entity.Patching
import SqlMapping.Proofs.Entity.Strategies

/-!
# Changes of entities

An entity has a value for every field of its class.  Where the class lets its fields be assigned,
and keeps what it is assigned as it is, assigning to some of them gives each of them its value and
leaves all others as they are.

The main statement says this of any fields of a defined class.
-/

namespace SqlMapping

/-! ## The fields of defined classes -/

namespace ClassField

theorem map_name_ofClass
    (hides : String → Bool)
    (inherited declared : List ClassField) :
    (ofClass hides inherited declared).map (fun field => field.field.name) =
      (merge inherited declared).map fun field => field.field.name := by
  rw [ofClass, List.map_map]
  apply List.map_congr_left
  intro field _
  dsimp only [Function.comp_apply]
  split
  · rfl
  · split_ifs
    · rfl
    · rfl

/-- Merged fields have the names of the inherited and of the added ones, and no others. -/
theorem mem_map_name_merge_iff
    {inherited added : List ClassField}
    {name : String} :
    name ∈ (merge inherited added).map (fun field => field.field.name) ↔
      name ∈ inherited.map (fun field => field.field.name) ∨
        name ∈ added.map fun field => field.field.name := by
  let named (fields : List ClassField) : List (String × ClassField) :=
    fields.map fun field => (field.field.name, field)
  have names (fields : List ClassField) :
      (named fields).map Prod.fst = fields.map fun field => field.field.name := by
    show List.map _ (List.map _ _) = _
    rw [List.map_map]
    rfl
  have ownNames :
      ∀ entry ∈ Entries.putAll (named inherited) (named added),
        entry.2.field.name = entry.1 := by
    intro entry member
    rcases Entries.mem_of_mem_putAll member with isInherited | isAdded
    · rcases List.mem_map.1 isInherited with ⟨field, -, rfl⟩
      rfl
    · rcases List.mem_map.1 isAdded with ⟨field, -, rfl⟩
      rfl
  have merged :
      (merge inherited added).map (fun field => field.field.name) =
        (Entries.putAll (named inherited) (named added)).map Prod.fst := by
    rw [merge, List.map_map]
    exact List.map_congr_left ownNames
  rw [merged, Entries.mem_map_fst_iff, Entries.isSome_lookup_putAll_iff,
    ← Entries.mem_map_fst_iff, names, names]
  exact or_comm

end ClassField

namespace TableClass

variable {workspace : Workspace} {base : Option TableClass} {definition : ClassDefinition}
  {table : TableClass}

/-- The names of the fields that a class inherits. -/
def inheritedNames (base : Option TableClass) : List String :=
  (base.map fieldNames).getD []

theorem fieldNames_ofDefinition (base : Option TableClass) (definition : ClassDefinition) :
    (ofDefinition base definition).fieldNames =
      (ClassField.ofClass
        (fun name =>
          definition.members.any (fun member => member.1 = name) || canHide base name)
        ((base.map fields).getD [])
        (definition.fields.filter fun field => ClassField.isFieldName field.field.name)).map
          fun field => field.field.name := rfl

/-- A class keeps the fields that it inherits, and adds such as have the names of fields. -/
theorem mem_fieldNames_ofDefinition
    {name : String}
    (member : name ∈ (ofDefinition base definition).fieldNames) :
    name ∈ inheritedNames base ∨ ClassField.isFieldName name = true := by
  rw [fieldNames_ofDefinition, ClassField.map_name_ofClass,
    ClassField.mem_map_name_merge_iff] at member
  rcases member with isInherited | isDeclared
  · left
    cases base with
    | none => exact isInherited
    | some base => exact isInherited
  · right
    rcases List.mem_map.1 isDeclared with ⟨field, isField, rfl⟩
    exact (List.mem_filter.1 isField).2

theorem inheritedNames_subset
    (base : Option TableClass)
    (definition : ClassDefinition) :
    inheritedNames base ⊆ (ofDefinition base definition).fieldNames := by
  intro name member
  rw [fieldNames_ofDefinition, ClassField.map_name_ofClass,
    ClassField.mem_map_name_merge_iff]
  left
  cases base with
  | none => cases member
  | some base => exact member

/-- What defining a class adds to the fields and to the classes that it extends. -/
theorem exists_members_of_define
    (defined : (define workspace base definition).outcome = .ok table) :
    table.fieldNames = (ofDefinition base definition).fieldNames ∧
      table.extended = (base.map layers).getD [] ∧
      ∀ (name : String) (setter : Setter) (type : TypeRef),
        (name, Member.setter setter type) ∈ table.own.members →
          setter.fieldName ∈ table.fieldNames := by
  have noMethod
      {name : String}
      {setter : Setter}
      {type : TypeRef} :
      (name, Member.setter setter type) ∉ (ofDefinition base definition).own.members := by
    intro member
    have isMember : (name, Member.setter setter type) ∈ definition.members :=
      List.mem_of_mem_filter member
    rcases List.mem_append.1 isMember with isMethod | isNested
    · rcases List.mem_map.1 isMethod with ⟨method, -, impossible⟩
      cases impossible
    · rcases List.mem_map.1 isNested with ⟨nested, -, impossible⟩
      cases impossible
  cases marker : definition.marker with
  | absent =>
      rw [define, marker] at defined
      cases defined
      exact ⟨rfl, rfl, fun name setter type member => absurd member noMethod⟩
  | unusable value =>
      rw [define, marker] at defined
      cases defined
  | options attributes =>
      have compiling := defined
      rw [define, marker] at compiling
      rcases exists_generated_of_compile compiling with ⟨compiled, -, isCompiled, -⟩
      have names := map_name_of_define defined isCompiled
      have isGenerated := isGenerated_of_define defined isCompiled
      rcases exists_attributes_of_define defined isCompiled with ⟨_, -, -, -, isTable⟩
      refine ⟨by rw [isTable]; rfl, by rw [isTable]; rfl, ?_⟩
      intro name setter type member
      rw [← names]
      rw [isTable] at member
      rcases Entries.mem_of_mem_putAll member with isMethod | isMember
      · exact absurd isMethod noMethod
      rcases Entries.mem_of_mem_putAll isMember with impossible | isGeneratedMember
      · cases impossible
      rcases isGenerated with ⟨schema, generated⟩
      have isPlan := TableSchema.eq_of_compile generated
      have isSetter : setter ∈ compiled.plan.setters := by
        rw [List.mem_append, List.mem_append, List.mem_append] at isGeneratedMember
        rcases isGeneratedMember with ((isGetter | isSetter) | isDelete) | isInsert
        · rcases List.mem_map.1 isGetter with ⟨getter, -, impossible⟩
          cases impossible
        · rcases List.mem_map.1 isSetter with ⟨other, isOther, same⟩
          cases same
          exact isOther
        · split_ifs at isDelete
          · rcases List.mem_cons.1 isDelete with impossible | isLast
            · cases impossible
            · cases List.mem_singleton.1 isLast
          · cases isDelete
        · rcases Option.mem_toList.1 isInsert with isInsert
          rcases Option.map_eq_some_iff.1 isInsert with ⟨spec, -, impossible⟩
          cases impossible
      rw [isPlan] at isSetter ⊢
      rcases List.mem_filterMap.1 isSetter with ⟨field, isField, isMade⟩
      rcases Option.map_eq_some_iff.1 isMade with ⟨functionName, -, rfl⟩
      exact List.mem_map_of_mem isField

/-- Every setter that some layers make writes one of some fields. -/
def SetsWithin (layers : List ClassLayer) (names : List String) : Prop :=
  ∀ layer ∈ layers, ∀ (name : String) (setter : Setter) (type : TypeRef),
    (name, Member.setter setter type) ∈ layer.members → setter.fieldName ∈ names

theorem setsWithin_of_define
    (inherited : SetsWithin ((base.map layers).getD []) (inheritedNames base))
    (defined : (define workspace base definition).outcome = .ok table) :
    SetsWithin table.layers table.fieldNames := by
  rcases exists_members_of_define defined with ⟨names, extended, sets⟩
  intro layer member name setter type isMember
  rcases List.mem_cons.1 member with rfl | isInherited
  · exact sets name setter type isMember
  · rw [extended] at isInherited
    rw [names]
    apply inheritedNames_subset base definition
    exact inherited layer isInherited name setter type isMember

theorem IsDefined.setsWithin (isDefined : table.IsDefined) :
    SetsWithin table.layers table.fieldNames := by
  induction isDefined with
  | root defined =>
      refine setsWithin_of_define ?_ defined
      intro layer member
      cases member
  | extending isBase defined inductionHypothesis =>
      refine setsWithin_of_define ?_ defined
      exact inductionHypothesis

/-- The fields of every compiled schema among some layers are among some names. -/
def SchemasWithin (layers : List ClassLayer) (names : List String) : Prop :=
  ∀ layer ∈ layers, ∀ compiled : CompiledTable,
    layer.compiled = some compiled → compiled.plan.schema.fields.map Field.name ⊆ names

theorem schemasWithin_of_define
    {workspace : Workspace}
    {base : Option TableClass}
    {definition : ClassDefinition}
    (inherited : SchemasWithin ((base.map layers).getD []) (inheritedNames base))
    (defined : (define workspace base definition).outcome = .ok table) :
    SchemasWithin table.layers table.fieldNames := by
  rcases exists_members_of_define defined with ⟨names, extended, -⟩
  intro layer member compiled isCompiled
  rcases List.mem_cons.1 member with rfl | isInherited
  · rw [map_name_of_define defined isCompiled]
    exact List.Subset.refl _
  · rw [extended] at isInherited
    rw [names]
    intro name isName
    apply inheritedNames_subset base definition
    exact inherited layer isInherited compiled isCompiled isName

theorem IsDefined.schemasWithin (isDefined : table.IsDefined) :
    SchemasWithin table.layers table.fieldNames := by
  induction isDefined with
  | root defined =>
      refine schemasWithin_of_define ?_ defined
      intro layer member
      cases member
  | extending isBase defined inductionHypothesis =>
      refine schemasWithin_of_define ?_ defined
      exact inductionHypothesis

/-- A defined class has the fields of the schema that it uses, its own or inherited. -/
theorem IsDefined.schemaNames_subset
    {compiled : CompiledTable}
    (isDefined : table.IsDefined)
    (isCompiled : table.compiled? = some compiled) :
    compiled.plan.schema.fields.map Field.name ⊆ table.fieldNames := by
  rcases List.exists_of_findSome?_eq_some isCompiled with ⟨layer, member, isLayer⟩
  exact isDefined.schemasWithin layer member compiled isLayer

theorem IsDefined.isFieldName
    (isDefined : table.IsDefined)
    {name : String}
    (member : name ∈ table.fieldNames) :
    ClassField.isFieldName name = true := by
  induction isDefined with
  | root defined =>
      rw [(exists_members_of_define defined).1] at member
      rcases mem_fieldNames_ofDefinition member with impossible | isFieldName
      · cases impossible
      · exact isFieldName
  | extending isBase defined inductionHypothesis =>
      rw [(exists_members_of_define defined).1] at member
      rcases mem_fieldNames_ofDefinition member with isInherited | isFieldName
      · exact inductionHypothesis isInherited
      · exact isFieldName

/-- A setter of a defined class, its own or inherited, writes a field that the class has. -/
theorem IsDefined.fieldName_mem
    (isDefined : table.IsDefined)
    {name : String}
    {setter : Setter}
    {type : TypeRef}
    (found : table.member? name = some (.setter setter type)) :
    setter.fieldName ∈ table.fieldNames := by
  rcases List.exists_of_findSome?_eq_some found with ⟨layer, isLayer, isFound⟩
  exact isDefined.setsWithin layer isLayer name setter type (Entries.mem_of_lookup isFound)

/-- No field of a class refuses to be assigned. -/
def IsAssignable (table : TableClass) : Prop :=
  ∀ name ∈ table.fieldNames, table.model.checkAssignable name = .ok ()

/-- Assigning the values that a record has under some names stores them as they are. -/
def Keeps (table : TableClass) (names : List String) (source : List (String × Value)) : Prop :=
  ∀ name ∈ names, ∀ value,
    source.lookup name = some value → table.model.stored name value = .ok value

/-- A class that does not read what is assigned to its fields stores every value as it is. -/
theorem keeps_of_not_readsAssigned
    (unread : table.model.config.readsAssigned = false)
    (names : List String)
    (source : List (String × Value)) :
    table.Keeps names source := by
  intro name _ value _
  rw [Model.stored, unread]
  rfl

end TableClass

/-! ## Assigning -/

namespace Entity

variable {entity : Entity}

/-- An entity has a value for every field of its class. -/
def IsComplete (entity : Entity) : Prop :=
  entity.fields.map Prod.fst = entity.table.fieldNames

theorem assign_eq
    (isDefined : entity.table.IsDefined)
    (isAssignable : entity.table.IsAssignable)
    {name : String}
    (isField : name ∈ entity.table.fieldNames)
    (value : Value) :
    entity.assign name value =
      (entity.table.model.stored name value).map fun kept =>
        { entity with fields := Entries.put entity.fields name kept } := by
  have isFieldName := isDefined.isFieldName isField
  have isNoPart : TableClass.parts.contains name = false := by
    have hidden : ∀ part ∈ TableClass.parts, ClassField.isFieldName part = false := by decide
    rw [Bool.eq_false_iff]
    intro isPart
    rw [hidden name (List.contains_iff_mem.1 isPart)] at isFieldName
    cases isFieldName
  have known : entity.table.model.fieldNames.contains name = true := by
    have names : entity.table.model.fieldNames = entity.table.fieldNames := List.map_map
    rw [names]
    exact List.contains_iff_mem.2 isField
  have puts :
      entity.table.model.assign TableClass.parts entity.fields name value =
        (entity.table.model.stored name value).map (Entries.put entity.fields name) := by
    rw [Model.assign, isNoPart, if_neg Bool.false_ne_true, isFieldName, Bool.not_true,
      if_neg Bool.false_ne_true, isAssignable name isField, Outcome.ok_bind]
    cases entity.table.model.stored name value with
    | error failure => rfl
    | ok kept =>
        show entity.table.model.put entity.fields name kept = _
        rw [Model.put, if_pos known]
        rfl
  rw [assign, puts]
  cases entity.table.model.stored name value with
  | error failure => rfl
  | ok kept => rfl

/-- The values that some fields of an entity take from a record, and the others that it keeps. -/
def Takes (entity changed : Entity) (names : List String) (source : List (String × Value)) : Prop :=
  changed.table = entity.table ∧
    ∀ name,
      changed.fields.lookup name =
        if name ∈ names then source.lookup name else entity.fields.lookup name

theorem Takes.cons
    {changed : Entity}
    {source : List (String × Value)}
    {names : List String}
    {name : String}
    {value : Value}
    (isValue : source.lookup name = some value)
    (takes :
      Takes { entity with fields := Entries.put entity.fields name value } changed names source) :
    entity.Takes changed (name :: names) source := by
  rcases takes with ⟨sameTable, lookups⟩
  refine ⟨sameTable, fun other => ?_⟩
  rw [lookups other]
  by_cases isLater : other ∈ names
  · rw [if_pos isLater, if_pos (List.mem_cons_of_mem name isLater)]
  · rw [if_neg isLater]
    by_cases same : other = name
    · rw [same, if_pos List.mem_cons_self, isValue]
      exact Entries.lookup_put_self _ _ _
    · rw [if_neg fun member => (List.mem_cons.1 member).elim same isLater]
      exact Entries.lookup_put_of_ne same

/-- Assigning the values of a record to fields of an entity succeeds and changes no other field. -/
theorem exists_ofNames_assign
    (isDefined : entity.table.IsDefined)
    (isAssignable : entity.table.IsAssignable)
    {source : List (String × Value)}
    {names : List String}
    (areFields : ∀ name ∈ names, name ∈ entity.table.fieldNames)
    (found : ∀ name ∈ names, name ∈ source.map Prod.fst)
    (keeps : entity.table.Keeps names source) :
    ∃ changed : Entity,
      Assigned.ofNames assign (fieldValue source) entity names = ⟨changed, names, .ok ()⟩ ∧
        entity.Takes changed names source := by
  induction names generalizing entity with
  | nil => exact ⟨entity, rfl, rfl, fun name => rfl⟩
  | cons name rest ih =>
      have isFound := Entries.mem_map_fst_iff.1 (found name List.mem_cons_self)
      rcases Option.isSome_iff_exists.1 isFound with ⟨value, isValue⟩
      let next : Entity := { entity with fields := Entries.put entity.fields name value }
      rcases @ih next isDefined isAssignable
          (fun other member => areFields other (List.mem_cons_of_mem name member))
          (fun other member => found other (List.mem_cons_of_mem name member))
          (fun other member => keeps other (List.mem_cons_of_mem name member)) with
        ⟨changed, assigned, takes⟩
      refine ⟨changed, ?_, takes.cons isValue⟩
      have first : (fieldValue source name >>= entity.assign name) = .ok next := by
        rw [fieldValue, isValue]
        show entity.assign name value = _
        rw [assign_eq isDefined isAssignable (areFields name List.mem_cons_self) value,
          keeps name List.mem_cons_self value isValue]
        rfl
      rw [Assigned.ofNames, first]
      dsimp only
      rw [assigned]

end Entity

end SqlMapping
