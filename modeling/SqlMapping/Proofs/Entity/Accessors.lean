import Mathlib.Data.List.Perm.Basic
import SqlMapping.Proofs.Entity.Definitions
import SqlMapping.Proofs.Entries

/-!
# Generated members and their names

The members of a compiled class are generated from its lookups and setters, whose names differ
from one another, and from fixed names.  The names of a private class are written with an
underscore in front, which can make two of them one; the names of a public class can be fixed
names.  Of several members with one name only the last is kept.

The main statement says exactly when that happens to no member, and that every member is then
found under its name.
-/

namespace SqlMapping

namespace TableSchema

/-- The names of the functions generated for all fields, as they were declared. -/
def rawNames (schema : TableSchema) : List String :=
  schema.fields.flatMap Field.generatedNames

theorem firstRepeated?_eq_none_iff
    {seen names : List String} :
    firstRepeated? seen names = none ↔ names.Nodup ∧ ∀ name ∈ names, name ∉ seen := by
  induction names generalizing seen with
  | nil => simp [firstRepeated?]
  | cons name rest inductionHypothesis =>
      rw [firstRepeated?]
      split_ifs with repeated
      · rw [List.contains_iff_mem] at repeated
        constructor
        · intro impossible
          cases impossible
        · rintro ⟨-, fresh⟩
          exact absurd repeated (fresh name List.mem_cons_self)
      · rw [List.contains_iff_mem] at repeated
        rw [inductionHypothesis, List.nodup_cons, List.forall_mem_cons]
        constructor
        · rintro ⟨distinct, fresh⟩
          refine ⟨⟨fun member => ?_, distinct⟩, repeated, fun other member => ?_⟩
          · exact fresh name member List.mem_cons_self
          · exact fun isSeen => fresh other member (List.mem_cons_of_mem name isSeen)
        · rintro ⟨⟨notRest, distinct⟩, -, fresh⟩
          refine ⟨distinct, fun other member isSeen => ?_⟩
          rcases List.mem_cons.1 isSeen with rfl | isOld
          · exact notRest member
          · exact fresh other member isOld

/-- Declared names are accepted when no two of them are the same. -/
theorem checkGeneratedNames_eq_ok_iff
    {entity : String}
    {seen : List String}
    {fields : List Field} :
    checkGeneratedNames entity seen fields = .ok () ↔
      (fields.flatMap Field.generatedNames).Nodup ∧
        ∀ name ∈ fields.flatMap Field.generatedNames, name ∉ seen := by
  induction fields generalizing seen with
  | nil => simp [checkGeneratedNames]
  | cons field rest inductionHypothesis =>
      rw [checkGeneratedNames, List.flatMap_cons, List.nodup_append]
      cases repeated : firstRepeated? seen field.generatedNames with
      | some name =>
          have notNone : firstRepeated? seen field.generatedNames ≠ none := by
            rw [repeated]
            exact Option.some_ne_none name
          rw [Ne, firstRepeated?_eq_none_iff] at notNone
          constructor
          · intro impossible
            cases impossible
          · rintro ⟨⟨distinct, -, -⟩, fresh⟩
            refine absurd ⟨distinct, fun other member => ?_⟩ notNone
            exact fresh other (List.mem_append_left _ member)
      | none =>
          rcases firstRepeated?_eq_none_iff.1 repeated with ⟨distinct, fresh⟩
          dsimp only
          rw [inductionHypothesis]
          constructor
          · rintro ⟨restDistinct, restFresh⟩
            refine ⟨⟨distinct, restDistinct, ?_⟩, ?_⟩
            · rintro name member other otherMember rfl
              exact restFresh name otherMember (List.mem_append_left seen member)
            · intro name member
              rcases List.mem_append.1 member with isHere | isRest
              · exact fresh name isHere
              · exact fun isSeen => restFresh name isRest (List.mem_append_right _ isSeen)
          · rintro ⟨⟨-, restDistinct, apart⟩, allFresh⟩
            refine ⟨restDistinct, fun name isRest isSeen => ?_⟩
            rcases List.mem_append.1 isSeen with isHere | isOld
            · exact apart name isHere name isRest rfl
            · exact allFresh name (List.mem_append_right _ isRest) isOld

theorem map_functionName_getters (schema : TableSchema) (backend : Backend) :
    (schema.getters backend).map Getter.functionName =
      (schema.fields.flatMap fun field =>
        field.lookups.declared.map fun lookup => lookup.2.functionName).map
          schema.accessorName := by
  rw [getters, lookups, List.map_map, List.map_flatMap, List.map_flatMap]
  congr 1
  funext field
  rw [List.map_map, List.map_map]
  rfl

theorem map_functionName_setters (schema : TableSchema) (backend : Backend) :
    (schema.setters backend).map Setter.functionName =
      (schema.fields.flatMap fun field => field.setterName.toList).map schema.accessorName := by
  rw [setters, List.map_filterMap, List.map_flatMap, List.filterMap_eq_flatMap_toList]
  congr 1
  funext field
  cases field.setterName with
  | none => rfl
  | some name => rfl

/-- Getters and setters have the declared names, as the class shows them. -/
theorem perm_accessorNames (schema : TableSchema) (backend : Backend) :
    ((schema.getters backend).map Getter.functionName
        ++ (schema.setters backend).map Setter.functionName).Perm
      (schema.rawNames.map schema.accessorName) := by
  rw [map_functionName_getters, map_functionName_setters, ← List.map_append]
  apply List.Perm.map
  exact List.flatMap_append_perm schema.fields _ _

/-- The accessor names of a private class begin with an underscore. -/
theorem head?_accessorName
    {schema : TableSchema}
    (hidden : schema.visibility = .private)
    (name : String) :
    (schema.accessorName name).toList.head? = some '_' := by
  rw [accessorName, hidden]
  dsimp only
  split_ifs with begins
  · exact begins
  · rw [String.toList_append]
    rfl

end TableSchema

namespace TableClass

/-- The members that are generated for a table, in the order in which they are put. -/
def operations (own : ClassLayer) (plan : TablePlan) : List (String × Member) :=
  plan.getters.map (fun getter => (getter.functionName, .getter getter))
    ++ plan.setters.map (fun setter =>
      (setter.functionName, .setter setter (typeOf own.fields setter.fieldName)))
    ++ (if plan.delete.isSome then [("delete_row", .deleteRow), ("delete", .delete)] else [])
    ++ (plan.schema.insertable.map fun spec =>
      ("Insert", Member.insert (insertModel own plan.schema spec))).toList

end TableClass

/-- The names of generated members that are not declared. -/
def TablePlan.fixedNames (plan : TablePlan) : List String :=
  (if plan.delete.isSome then ["delete_row", "delete"] else [])
    ++ (plan.schema.insertable.map fun _ => "Insert").toList

/--
No name becomes another one: the declared names of a public class are no fixed names, and those
of a private class do not differ by an underscore in front.
-/
def TablePlan.KeepsNamesApart (plan : TablePlan) : Prop :=
  match plan.schema.visibility with
  | .public => ∀ name ∈ plan.schema.rawNames, name ∉ plan.fixedNames
  | .private =>
    ∀ name ∈ plan.schema.rawNames,
      name.toList.head? ≠ some '_' → "_" ++ name ∉ plan.schema.rawNames

namespace TablePlan

theorem nodup_fixedNames (plan : TablePlan) : plan.fixedNames.Nodup := by
  have inserting :
      (plan.schema.insertable.map fun _ => "Insert").toList = ["Insert"] ∨
        (plan.schema.insertable.map fun _ => "Insert").toList = [] := by
    cases plan.schema.insertable with
    | none => exact Or.inr rfl
    | some spec => exact Or.inl rfl
  rw [fixedNames]
  rcases inserting with shown | absent
  · rw [shown]
    split_ifs
    · decide
    · decide
  · rw [absent]
    split_ifs
    · decide
    · decide

theorem head?_of_mem_fixedNames
    {plan : TablePlan}
    {name : String}
    (member : name ∈ plan.fixedNames) :
    name.toList.head? ≠ some '_' := by
  have isOne : name ∈ ["delete_row", "delete", "Insert"] := by
    rw [fixedNames, List.mem_append] at member
    rcases member with isDeletion | isInsertion
    · split_ifs at isDeletion
      · exact List.mem_append_left ["Insert"] isDeletion
      · cases isDeletion
    · rcases Option.map_eq_some_iff.1 (Option.mem_toList.1 isInsertion) with ⟨spec, -, rfl⟩
      decide
  have bare : ∀ name ∈ ["delete_row", "delete", "Insert"], name.toList.head? ≠ some '_' := by
    decide
  exact bare name isOne

end TablePlan

namespace TableSchema

variable {schema : TableSchema}

/-- Hidden names stay apart exactly if no two of them differ by an underscore in front. -/
theorem nodup_map_accessorName_iff
    (hidden : schema.visibility = .private)
    (distinct : schema.rawNames.Nodup) :
    (schema.rawNames.map schema.accessorName).Nodup ↔
      ∀ name ∈ schema.rawNames,
        name.toList.head? ≠ some '_' → "_" ++ name ∉ schema.rawNames := by
  have shown (name : String) :
      schema.accessorName name = if name.toList.head? = some '_' then name else "_" ++ name := by
    rw [accessorName, hidden]
  have head (name : String) : ("_" ++ name).toList.head? = some '_' := by
    rw [String.toList_append]
    rfl
  rw [List.nodup_map_iff_inj_on distinct]
  constructor
  · intro injective name member bare alsoMember
    have same : schema.accessorName name = schema.accessorName ("_" ++ name) := by
      rw [shown, shown, if_neg bare, if_pos (head name)]
    have equal := injective name member _ alsoMember same
    apply bare
    rw [equal]
    exact head name
  · intro apart first firstMember second secondMember same
    rw [shown, shown] at same
    split_ifs at same with firstHidden secondHidden secondHidden
    · exact same
    · rw [same] at firstMember
      exact absurd firstMember (apart second secondMember secondHidden)
    · rw [← same] at secondMember
      exact absurd secondMember (apart first firstMember firstHidden)
    · exact String.append_right_inj "_" |>.1 same

end TableSchema

namespace TableClass

theorem map_fst_operations (own : ClassLayer) (plan : TablePlan) :
    (operations own plan).map Prod.fst =
      (plan.getters.map Getter.functionName ++ plan.setters.map Setter.functionName)
        ++ plan.fixedNames := by
  have fixed :
      ((if plan.delete.isSome then [("delete_row", Member.deleteRow), ("delete", .delete)] else [])
          ++ (plan.schema.insertable.map fun spec =>
            ("Insert", Member.insert (insertModel own plan.schema spec))).toList).map Prod.fst =
        plan.fixedNames := by
    rw [TablePlan.fixedNames, List.map_append]
    congr 1
    · split_ifs
      · rfl
      · rfl
    · cases plan.schema.insertable with
      | none => rfl
      | some spec => rfl
  rw [operations, List.append_assoc, List.map_append, fixed, List.map_append, List.map_map,
    List.map_map]
  rfl

/-- The members of a compiled table have names of their own exactly if no name becomes another. -/
theorem nodup_operations_iff_of_compile
    {schema : TableSchema}
    {backend : Backend}
    {plan : TablePlan}
    (own : ClassLayer)
    (distinct : schema.rawNames.Nodup)
    (compiled : (schema.compile backend).outcome = .ok plan) :
    ((operations own plan).map Prod.fst).Nodup ↔ plan.KeepsNamesApart := by
  have isSchema := TableSchema.schema_of_compile compiled
  have isPlan := TableSchema.eq_of_compile compiled
  have renamed :
      (plan.getters.map Getter.functionName ++ plan.setters.map Setter.functionName).Perm
        (schema.rawNames.map schema.accessorName) := by
    rw [isPlan]
    exact schema.perm_accessorNames backend
  rw [map_fst_operations, (renamed.append_right plan.fixedNames).nodup_iff, List.nodup_append,
    TablePlan.KeepsNamesApart, isSchema]
  cases visible : schema.visibility with
  | «public» =>
      have unchanged : schema.rawNames.map schema.accessorName = schema.rawNames := by
        apply List.map_id''
        intro name
        rw [TableSchema.accessorName, visible]
      rw [unchanged]
      constructor
      · rintro ⟨-, -, apart⟩ name member isFixed
        exact apart name member name isFixed rfl
      · intro apart
        refine ⟨distinct, plan.nodup_fixedNames, ?_⟩
        rintro name member _ isFixed rfl
        exact apart name member isFixed
  | «private» =>
      rw [TableSchema.nodup_map_accessorName_iff visible distinct]
      constructor
      · rintro ⟨apart, -, -⟩
        exact apart
      · intro apart
        refine ⟨apart, plan.nodup_fixedNames, ?_⟩
        rintro name member _ isFixed rfl
        rcases List.mem_map.1 member with ⟨raw, -, rfl⟩
        exact TablePlan.head?_of_mem_fixedNames isFixed (TableSchema.head?_accessorName visible raw)

theorem checkFree_eq_ok_iff
    {table : TableClass}
    {names : List String} :
    table.checkFree names = .ok () ↔ ∀ name ∈ names, table.isFree name = true := by
  rw [checkFree]
  cases taken : names.find? fun name => !table.isFree name with
  | none => simpa using List.find?_eq_none.1 taken
  | some name =>
      have member := List.mem_of_find?_eq_some taken
      have notFree := List.find?_some taken
      constructor
      · intro impossible
        cases impossible
      · intro free
        rw [free name member] at notFree
        cases notFree

/--
The generated members of a class have names of their own exactly if no name becomes another one.
Then every one of them is what its name stands for, and no field has that name.
-/
theorem nodup_operations_iff
    {workspace : Workspace}
    {base : Option TableClass}
    {definition : ClassDefinition}
    {table : TableClass}
    {compiled : CompiledTable}
    (defined : (define workspace base definition).outcome = .ok table)
    (isCompiled : table.own.compiled = some compiled) :
    (((operations table.own compiled.plan).map Prod.fst).Nodup ↔
        compiled.plan.KeepsNamesApart) ∧
      (compiled.plan.KeepsNamesApart →
        ∀ entry ∈ operations table.own compiled.plan,
          table.member? entry.1 = some entry.2 ∧ entry.1 ∉ table.fieldNames) := by
  rcases exists_attributes_of_define defined isCompiled with
    ⟨attributes, -, planned, free, isTable⟩
  generalize ofDefinition base definition = source at planned free isTable
  have sameOperations :
      operations table.own compiled.plan = operations source.own compiled.plan := by
    rw [isTable]
    rfl
  have apartIff :
      ((operations source.own compiled.plan).map Prod.fst).Nodup ↔
        compiled.plan.KeepsNamesApart := by
    rw [compileTable, Report.bind_outcome_eq_ok_iff] at planned
    rcases planned with ⟨schema, checked, planned⟩
    rw [Report.bind_outcome_eq_ok_iff] at planned
    rcases planned with ⟨backend, -, generated⟩
    have distinct : schema.rawNames.Nodup := by
      rcases TableSchema.ofDeclaration_eq_ok_iff.1 checked with
        ⟨-, -, -, -, fields, -, -, -, -, -, -, -, -, -, named, rfl⟩
      exact (TableSchema.checkGeneratedNames_eq_ok_iff.1 named).1
    exact nodup_operations_iff_of_compile source.own distinct generated
  rw [sameOperations]
  refine ⟨apartIff, ?_⟩
  rintro apart ⟨name, member⟩ isOperation
  have distinct := apartIff.2 apart
  have allPut :
      generatedMembers source.own compiled.plan = operations source.own compiled.plan :=
    Entries.putAll_of_fresh distinct fun _ _ isOld => by cases isOld
  rw [allPut] at free isTable
  have isFree := checkFree_eq_ok_iff.1 free name (List.mem_map_of_mem isOperation)
  rw [TableClass.isFree, Bool.and_eq_true, Bool.not_eq_true'] at isFree
  constructor
  · rw [isTable, member?, layers, List.findSome?_cons]
    dsimp only
    rw [Entries.lookup_putAll_of_mem distinct isOperation]
  · have sameFields : table.fieldNames = source.fieldNames := by
      rw [isTable]
      rfl
    rw [sameFields]
    intro isField
    rw [List.contains_iff_mem.2 isField] at isFree
    cases isFree.1

/-- Notes that can be deleted, with a lookup of some name. -/
def notesWith (entity lookup : String) : ClassDefinition :=
  { notesOf "sqlite" [⟨"deletable", .bool true⟩]
      [numberOfNote,
        { bodyOfNote with attributes := [⟨"get_many", .text lookup⟩, ⟨"set", .bool true⟩] }] with
    name := entity
    path := "app." ++ entity }

/-- The class of notes with a search. -/
def searchedNotes : TableClass :=
  ofAccepted (notesWith "_Note" "search") (by decide +kernel)

/-- The class of notes with a lookup that is named like their deletion. -/
def deletedNotes : TableClass :=
  ofAccepted (notesWith "Note" "delete") (by decide +kernel)

theorem nodup_operations_search :
    ∃ compiled : CompiledTable,
      ((define .standard none (notesWith "_Note" "search")).outcome = .ok searchedNotes ∧
          searchedNotes.own.compiled = some compiled) ∧
        ((operations searchedNotes.own compiled.plan).map Prod.fst).Nodup ∧
          compiled.plan.KeepsNamesApart ∧
            ∀ entry ∈ operations searchedNotes.own compiled.plan,
              searchedNotes.member? entry.1 = some entry.2 ∧
                entry.1 ∉ searchedNotes.fieldNames := by
  have defined :
      (define .standard none (notesWith "_Note" "search")).outcome = .ok searchedNotes :=
    define_ofAccepted _ _
  refine ⟨_, ⟨defined, rfl⟩, ?_⟩
  rcases nodup_operations_iff defined rfl with ⟨apartIff, reachable⟩
  have apart := apartIff.1 (by decide)
  exact ⟨apartIff.2 apart, apart, reachable apart⟩

/-- A lookup that is named like the deletion of a row is accepted, and lost. -/
theorem not_nodup_operations_delete :
    ∃ compiled : CompiledTable,
      ((define .standard none (notesWith "Note" "delete")).outcome = .ok deletedNotes ∧
          deletedNotes.own.compiled = some compiled) ∧
        ¬ ((operations deletedNotes.own compiled.plan).map Prod.fst).Nodup ∧
          ∃ getter ∈ compiled.plan.getters,
            getter.functionName = "delete" ∧ deletedNotes.member? "delete" = some .delete := by
  have defined :
      (define .standard none (notesWith "Note" "delete")).outcome = .ok deletedNotes :=
    define_ofAccepted _ _
  refine ⟨_, ⟨defined, rfl⟩, ?_, _, List.mem_cons_self, rfl, rfl⟩
  decide

end TableClass

end SqlMapping
