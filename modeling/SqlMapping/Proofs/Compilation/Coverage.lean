import SqlMapping.Compilation
import SqlMapping.Proofs.Schema.Acceptance
import SqlMapping.Proofs.Statement.Insertion

/-!
# What a table is compiled to

The options of a declaration say which fields rows are looked up by and how, which fields have a
setter, and whether rows can be deleted and inserted.  For each of these the compiled table has a
statement, under the name that the option gives it, and it has statements for nothing else.

The main statement says this of every declaration that is accepted.
-/

namespace SqlMapping

theorem exists_mem_iff_of_forall₂
    {α β : Type}
    {related : α → β → Prop}
    {property : α → Prop}
    {other : β → Prop}
    {left : List α}
    {right : List β}
    (pairs : List.Forall₂ related left right)
    (alike : ∀ first second, related first second → (property first ↔ other second)) :
    (∃ first ∈ left, property first) ↔ ∃ second ∈ right, other second := by
  induction pairs with
  | nil => exact ⟨nofun, nofun⟩
  | cons here _ inductionHypothesis =>
      rw [List.exists_mem_cons_iff, List.exists_mem_cons_iff, alike _ _ here, inductionHypothesis]

/-- The option that declares a lookup, and how the name begins that a lookup has by default. -/
def LookupKind.option : LookupKind → String × String
  | .one => ("get_one", "by_")
  | .optional => ("get_optional", "by_")
  | .many => ("get_many", "by_")
  | .anyOf => ("get_by_any", "get_by_any_")

/-- The lookup of a kind. -/
def Lookups.ofKind? (lookups : Lookups) : LookupKind → Option LookupSpec
  | .one => lookups.one
  | .optional => lookups.optional
  | .many => lookups.many
  | .anyOf => lookups.anyOf

theorem Lookups.mem_declared_iff
    {lookups : Lookups}
    {kind : LookupKind}
    {spec : LookupSpec} :
    (kind, spec) ∈ lookups.declared ↔ lookups.ofKind? kind = some spec := by
  rw [declared]
  cases kind with
  | _ => simp [ofKind?]

namespace FieldDeclaration

/-- An option of a field declares a function, whose name is given or made from that of the field. -/
def Declares (field : FieldDeclaration) (key beginning function : String) : Prop :=
  ∃ value,
    Attribute.value? field.attributes key = some value ∧
      function = value.givenName?.getD (beginning ++ field.name)

theorem declares_iff
    {field : FieldDeclaration}
    {key beginning function : String} :
    field.Declares key beginning function ↔
      ((Attribute.value? field.attributes key).map fun value =>
        value.givenName?.getD (beginning ++ field.name)) = some function := by
  rw [Declares, Option.map_eq_some_iff]
  refine exists_congr fun value => and_congr Iff.rfl eq_comm

end FieldDeclaration

namespace Field

variable {backend : Backend} {entity identifierName : String} {declaration : FieldDeclaration}
  {field : Field}

/-- A field has the lookups that its declaration says. -/
theorem functionName_ofKind?_iff
    (isRead : IsRead backend entity identifierName declaration field)
    {kind : LookupKind}
    {function : String} :
    (∃ spec, field.lookups.ofKind? kind = some spec ∧ spec.functionName = function) ↔
      declaration.Declares kind.option.1 kind.option.2 function := by
  rcases isRead with ⟨options, collected, rfl⟩
  rw [FieldDeclaration.declares_iff, ← Option.map_eq_some_iff]
  have named (key defaultName : String) (defaultType : Value)
      (isLookup : OptionGrammar.tableField.lookup key = some .lookup) :
      ((options.lookup? key).map (LookupSpec.ofOption defaultName defaultType)).map
          LookupSpec.functionName =
        (Attribute.value? declaration.attributes key).map fun value =>
          value.givenName?.getD defaultName := by
    rw [Option.map_map]
    exact Options.map_functionName_of_collect collected isLookup defaultName defaultType
  cases kind with
  | one => exact Eq.congr_left (named "get_one" _ _ rfl)
  | optional => exact Eq.congr_left (named "get_optional" _ _ rfl)
  | many => exact Eq.congr_left (named "get_many" _ _ rfl)
  | anyOf => exact Eq.congr_left (named "get_by_any" _ _ rfl)

/-- A field has the setter that its declaration says. -/
theorem setterName_iff
    (isRead : IsRead backend entity identifierName declaration field)
    {function : String} :
    field.setterName = some function ↔ declaration.Declares "set" "set_" function := by
  rcases isRead with ⟨options, collected, rfl⟩
  rw [FieldDeclaration.declares_iff]
  show (options.functionName? "set").map _ = _ ↔ _
  rw [Options.functionName?_of_collect collected rfl, Option.map_map]
  rfl

end Field

/-- A compiled table has a statement for everything that is declared, and for nothing else. -/
structure TablePlan.Covers (plan : TablePlan) (declaration : Declaration) : Prop where
  getters_iff (kind : LookupKind) (name function : String) :
    (∃ getter ∈ plan.getters,
        getter.kind = kind ∧ getter.fieldName = name ∧ getter.functionName = function) ↔
      ∃ field ∈ declaration.fields,
        field.name = name ∧
          ∃ given, field.Declares kind.option.1 kind.option.2 given ∧
            plan.schema.accessorName given = function
  setters_iff (name function : String) :
    (∃ setter ∈ plan.setters, setter.fieldName = name ∧ setter.functionName = function) ↔
      ∃ field ∈ declaration.fields,
        field.name = name ∧
          ∃ given, field.Declares "set" "set_" given ∧ plan.schema.accessorName given = function
  update_iff :
    plan.update.isSome = true ↔
      ∃ name ∈ declaration.fieldNames, Attribute.text? declaration.attributes "id" ≠ some name
  delete_iff :
    plan.delete.isSome = true ↔
      Attribute.value? declaration.attributes "deletable" = some (.bool true)
  insert_iff :
    plan.insert.isSome = true ↔ ∃ option ∈ declaration.attributes, option.key = "insertable"

namespace TableSchema

variable {schema : TableSchema} {backend : Backend}

/-- The lookups of a table are those of its fields. -/
theorem exists_mem_getters_iff
    {kind : LookupKind}
    {name function : String} :
    (∃ getter ∈ schema.getters backend,
        getter.kind = kind ∧ getter.fieldName = name ∧ getter.functionName = function) ↔
      ∃ field ∈ schema.fields,
        field.name = name ∧
          ∃ given,
            (∃ spec, field.lookups.ofKind? kind = some spec ∧ spec.functionName = given) ∧
              schema.accessorName given = function := by
  constructor
  · rintro ⟨getter, member, rfl, rfl, rfl⟩
    rcases List.mem_map.1 member with ⟨⟨field, kind, spec⟩, isLookup, rfl⟩
    rcases List.mem_flatMap.1 isLookup with ⟨other, isField, declared⟩
    rcases List.mem_map.1 declared with ⟨⟨otherKind, otherSpec⟩, isDeclared, ⟨⟩⟩
    exact
      ⟨field, isField, rfl, spec.functionName, ⟨spec, Lookups.mem_declared_iff.1 isDeclared, rfl⟩,
        rfl⟩
  · rintro ⟨field, isField, rfl, _, ⟨spec, isSpec, rfl⟩, rfl⟩
    have isDeclared := List.mem_map_of_mem (f := fun lookup => (field, lookup.1, lookup.2))
      (Lookups.mem_declared_iff.2 isSpec)
    have isLookup : (field, kind, spec) ∈ schema.lookups :=
      List.mem_flatMap.2 ⟨field, isField, isDeclared⟩
    exact ⟨schema.getter backend field kind spec, List.mem_map.2 ⟨_, isLookup, rfl⟩, rfl, rfl, rfl⟩

/-- The setters of a table are those of its fields. -/
theorem exists_mem_setters_iff {name function : String} :
    (∃ setter ∈ schema.setters backend,
        setter.fieldName = name ∧ setter.functionName = function) ↔
      ∃ field ∈ schema.fields,
        field.name = name ∧
          ∃ given, field.setterName = some given ∧ schema.accessorName given = function := by
  constructor
  · rintro ⟨setter, member, rfl, rfl⟩
    rcases List.mem_filterMap.1 member with ⟨field, isField, named⟩
    rcases Option.map_eq_some_iff.1 named with ⟨given, isGiven, rfl⟩
    exact ⟨field, isField, rfl, given, isGiven, rfl⟩
  · rintro ⟨field, isField, rfl, given, isGiven, rfl⟩
    let statement : Statement :=
      .ofTemplate backend (schema.updateTemplate [field.column]) ["$value", "$id"]
    refine
      ⟨⟨schema.accessorName given, field.name, statement⟩,
        List.mem_filterMap.2 ⟨field, isField, ?_⟩, rfl, rfl⟩
    rw [isGiven, Option.map_some]

/-- A whole row is written where there is more than the identifier to write. -/
theorem isSome_update?_iff :
    (schema.update? backend).isSome = true ↔
      ∃ field ∈ schema.fields, ¬field.isIdentifier = true := by
  rw [update?]
  split_ifs with isEmpty
  · rw [List.isEmpty_iff, fieldsExceptIdentifier, List.filter_eq_nil_iff] at isEmpty
    refine iff_of_false Bool.false_ne_true ?_
    rintro ⟨field, isField, isOther⟩
    exact isEmpty field isField (by simpa using isOther)
  · rw [List.isEmpty_iff] at isEmpty
    rcases List.exists_mem_of_ne_nil _ isEmpty with ⟨field, member⟩
    rcases List.mem_filter.1 member with ⟨isField, isOther⟩
    exact iff_of_true rfl ⟨field, isField, by simpa using isOther⟩

end TableSchema

/-- An accepted declaration is compiled to a statement for everything that it declares. -/
theorem compileTable_covers
    {workspace : Workspace}
    {choice : BackendChoice}
    {declaration : Declaration}
    {plan : TablePlan}
    (compiled : (compileTable workspace choice declaration).outcome = .ok plan) :
    plan.Covers declaration := by
  rw [compileTable] at compiled
  rcases Report.bind_outcome_eq_ok_iff.1 compiled with ⟨schema, accepted, compiled⟩
  rcases Report.bind_outcome_eq_ok_iff.1 compiled with ⟨backend, -, compiled⟩
  have isPlan := TableSchema.eq_of_compile compiled
  have isSchema := TableSchema.schema_of_compile compiled
  rcases TableSchema.ofDeclaration_eq_ok_iff.1 accepted with
    ⟨options, checking, table, identifierName, fields, identifier, collected, -, -, isName, -,
      areRead, -, -, -, rfl⟩
  constructor
  case getters_iff =>
    intro kind name function
    rw [isSchema, isPlan, TableSchema.exists_mem_getters_iff]
    refine (exists_mem_iff_of_forall₂ areRead fun field read isRead => ?_).symm
    rw [Field.name_of_isRead isRead]
    refine and_congr Iff.rfl (exists_congr fun given => and_congr ?_ Iff.rfl)
    exact (Field.functionName_ofKind?_iff isRead).symm
  case setters_iff =>
    intro name function
    rw [isSchema, isPlan, TableSchema.exists_mem_setters_iff]
    refine (exists_mem_iff_of_forall₂ areRead fun field read isRead => ?_).symm
    rw [Field.name_of_isRead isRead]
    refine and_congr Iff.rfl (exists_congr fun given => and_congr ?_ Iff.rfl)
    exact (Field.setterName_iff isRead).symm
  case update_iff =>
    have isIdentifier := Field.isIdentifier_iff_of_isRead areRead
    rw [isPlan, TableSchema.isSome_update?_iff, ← Options.text?_of_collect collected rfl, isName,
      Declaration.fieldNames, ← Field.map_name_of_isRead areRead]
    constructor
    · rintro ⟨field, isField, isOther⟩
      refine ⟨field.name, List.mem_map_of_mem isField, fun same => isOther ?_⟩
      exact (isIdentifier field isField).2 (Option.some.inj same).symm
    · rintro ⟨name, member, isOther⟩
      rcases List.mem_map.1 member with ⟨field, isField, rfl⟩
      refine ⟨field, isField, fun isKey => isOther ?_⟩
      rw [(isIdentifier field isField).1 isKey]
  case delete_iff =>
    rw [isPlan, ← Options.flag_iff_of_collect collected rfl]
    dsimp only
    split_ifs with isDeletable
    · exact iff_of_true rfl isDeletable
    · exact iff_of_false Bool.false_ne_true isDeletable
  case insert_iff =>
    rw [TableSchema.isSome_insert_of_compile compiled, ← Attribute.isSome_value?_iff,
      ← Options.isSome_insertable?_of_collect collected rfl, Option.isSome_map]

end SqlMapping
