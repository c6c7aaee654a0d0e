import Mathlib.Data.List.Perm.Basic
import SqlMapping.Compilation
import SqlMapping.Proofs.Entries
import SqlMapping.Proofs.Schema.Options

/-!
# Order of options

The options of a declaration, and those of each of its fields, are read under their keys, so that
their order tells nothing.  Which of several violations is reported first does depend on the order,
but whether there is one does not.

The main statement says that declarations which differ in the order of options only are accepted
alike, with the same schema and the same notices, and are compiled alike.
-/

namespace SqlMapping

/-! ## Entries in another order -/

namespace Entries

variable {α : Type} {left right : List (String × α)}

/-- What stands under keys that are all different does not depend on the order. -/
theorem lookup_eq_of_perm
    (perm : left.Perm right)
    (distinct : (left.map Prod.fst).Nodup)
    (key : String) :
    left.lookup key = right.lookup key := by
  induction perm with
  | nil => rfl
  | cons entry _ inductionHypothesis =>
      rw [List.lookup_cons, List.lookup_cons, inductionHypothesis (List.nodup_cons.1 distinct).2]
  | swap first second rest =>
      have differ : second.1 ≠ first.1 := fun same =>
        (List.nodup_cons.1 distinct).1 (same ▸ List.mem_cons_self)
      rw [List.lookup_cons, List.lookup_cons, List.lookup_cons, List.lookup_cons]
      by_cases isSecond : key = second.1
      · rw [isSecond, beq_self_eq_true, beq_false_of_ne differ]
      · rw [beq_false_of_ne isSecond]
  | trans firstPerm _ firstHypothesis secondHypothesis =>
      rw [firstHypothesis distinct,
        secondHypothesis ((firstPerm.map Prod.fst).nodup_iff.1 distinct)]

end Entries

/-- The same is found under each key. -/
def Options.Alike (left right : Options) : Prop :=
  ∀ key, left.lookup key = right.lookup key

namespace OptionGrammar

variable {grammar : OptionGrammar} {location : String} {left right : List Attribute}
  {options : Options}

/-- Options that are accepted are accepted in any order, and the same is read under each key. -/
theorem exists_collect_of_perm
    (perm : left.Perm right)
    (accepted : grammar.collect location left = .ok options) :
    ∃ others, grammar.collect location right = .ok others ∧ options.Alike others := by
  rcases collect_eq_ok_iff.1 accepted with ⟨distinct, readAll⟩
  -- Each option is read on its own, so that what is read can be permuted with the options.
  rcases List.perm_comp_forall₂ perm.symm readAll with ⟨others, readOthers, permOptions⟩
  have distinctRight : (right.map Attribute.key).Nodup :=
    (perm.map Attribute.key).nodup_iff.1 distinct
  refine ⟨others, collect_eq_ok_iff.2 ⟨distinctRight, readOthers⟩, ?_⟩
  apply Entries.lookup_eq_of_perm permOptions.symm
  rw [map_fst_of_collect accepted]
  exact distinct

end OptionGrammar

/-! ## Reports that agree -/

namespace Report

variable {α β γ δ : Type}

/-- Two reports are both refusals, or have the same notices and related results. -/
inductive Agree (related : α → β → Prop) : Report α → Report β → Prop where
  | refused
      {notices others : List Notice}
      {error other : BuildError} :
      Agree related ⟨notices, .error error⟩ ⟨others, .error other⟩
  | accepted
      {notices : List Notice}
      {value : α}
      {other : β}
      (isRelated : related value other) :
      Agree related ⟨notices, .ok value⟩ ⟨notices, .ok other⟩

/-- One report is accepted exactly if another is, and then they are the same. -/
structure Coincide (left right : Report α) : Prop where
  accepted : left.outcome.isOk = right.outcome.isOk
  same : left.outcome.isOk = true → left = right

theorem agree_refl (report : Report α) : Agree Eq report report := by
  rcases report with ⟨notices, outcome⟩
  cases outcome with
  | error error => exact .refused
  | ok value => exact .accepted rfl

/-- Reports that agree are continued to reports that agree. -/
theorem Agree.bind
    {related : α → β → Prop}
    {relatedNext : γ → δ → Prop}
    {left : Report α}
    {right : Report β}
    {next : α → Report γ}
    {other : β → Report δ}
    (agree : Agree related left right)
    (follows :
      ∀ value result, related value result → Agree relatedNext (next value) (other result)) :
    Agree relatedNext (left >>= next) (right >>= other) := by
  cases agree with
  | refused => exact .refused
  | @accepted notices value result isRelated =>
      have agreeNext := follows value result isRelated
      rw [bind_ok, bind_ok]
      generalize next value = first at agreeNext
      generalize other result = second at agreeNext
      cases agreeNext with
      | refused => exact .refused
      | accepted isRelatedNext => exact .accepted isRelatedNext

/-- The same report is continued to reports that agree. -/
theorem agree_bind
    {related : β → γ → Prop}
    (report : Report α)
    {next : α → Report β}
    {other : α → Report γ}
    (follows : ∀ value, Agree related (next value) (other value)) :
    Agree related (report >>= next) (report >>= other) := by
  refine (agree_refl report).bind ?_
  rintro value _ rfl
  exact follows value

theorem Agree.coincide
    {left right : Report α}
    (agree : Agree Eq left right) :
    Coincide left right := by
  cases agree with
  | refused => exact ⟨rfl, fun impossible => by cases impossible⟩
  | accepted isSame => exact ⟨rfl, fun _ => by rw [isSame]⟩

end Report

/-- Options in another order are read alike. -/
theorem OptionGrammar.agree_collect
    (grammar : OptionGrammar)
    (location : String)
    {left right : List Attribute}
    (perm : left.Perm right) :
    Report.Agree Options.Alike (.ofExcept (grammar.collect location left))
      (.ofExcept (grammar.collect location right)) := by
  -- One order is accepted if the other is, so that refusals can only meet refusals.
  cases accepted : grammar.collect location left with
  | ok options =>
      rcases exists_collect_of_perm perm accepted with ⟨others, isRead, alike⟩
      rw [isRead]
      exact .accepted alike
  | error error =>
      cases acceptedRight : grammar.collect location right with
      | error other => exact .refused
      | ok others =>
          rcases exists_collect_of_perm perm.symm acceptedRight with ⟨options, isRead, -⟩
          rw [accepted] at isRead
          cases isRead

/-! ## Declarations in another order -/

/-- Fields that differ in the order of their options only. -/
structure FieldDeclaration.Reorders (left right : FieldDeclaration) : Prop where
  name : left.name = right.name
  type : left.type = right.type
  extra : left.extra = right.extra
  attributes : left.attributes.Perm right.attributes

/-- Declarations that differ in the order of options only, their own and those of each field. -/
structure Declaration.Reorders (left right : Declaration) : Prop where
  name : left.name = right.name
  attributes : left.attributes.Perm right.attributes
  fields : List.Forall₂ FieldDeclaration.Reorders left.fields right.fields

theorem FieldDeclaration.map_name_of_reorders
    {left right : List FieldDeclaration}
    (reorders : List.Forall₂ Reorders left right) :
    left.map name = right.map name := by
  induction reorders with
  | nil => rfl
  | cons here _ inductionHypothesis =>
      rw [List.map_cons, List.map_cons, here.name, inductionHypothesis]

theorem Declaration.Reorders.fieldNames_eq
    {left right : Declaration}
    (reorders : left.Reorders right) :
    left.fieldNames = right.fieldNames :=
  FieldDeclaration.map_name_of_reorders reorders.fields

/-- The declaration whose options all stand the other way round. -/
def Declaration.reversed (declaration : Declaration) : Declaration where
  name := declaration.name
  attributes := declaration.attributes.reverse
  fields :=
    declaration.fields.map fun field => { field with attributes := field.attributes.reverse }

theorem Declaration.reorders_reversed (declaration : Declaration) :
    declaration.Reorders declaration.reversed where
  name := rfl
  attributes := declaration.attributes.reverse_perm.symm
  fields := by
    rw [reversed, List.forall₂_map_right_iff, List.forall₂_same]
    exact fun field _ => ⟨rfl, rfl, rfl, field.attributes.reverse_perm.symm⟩

/-! ## Tables -/

/-- A field is determined by what is found under the keys of its options. -/
theorem Field.ofOptions_eq
    {left right : FieldDeclaration}
    {options others : Options}
    (reorders : left.Reorders right)
    (alike : options.Alike others)
    (backend : Backend)
    (identifierName : String) :
    ofOptions backend identifierName left options =
      ofOptions backend identifierName right others := by
  have same : ∀ key, options.lookup key = others.lookup key := alike
  simp only [ofOptions, Options.text?, Options.flag, Options.lookup?, Options.functionName?, same,
    reorders.name, reorders.type, reorders.extra]

theorem Field.agree_ofDeclaration
    {left right : FieldDeclaration}
    (reorders : left.Reorders right)
    (workspace : Workspace)
    (backend : Backend)
    (entity identifierName : String) :
    Report.Agree Eq (ofDeclaration workspace backend entity identifierName left)
      (ofDeclaration workspace backend entity identifierName right) := by
  rw [ofDeclaration, ofDeclaration, reorders.name]
  refine (OptionGrammar.agree_collect .tableField _ reorders.attributes).bind ?_
  intro options others alike
  rw [ofOptions_eq reorders alike]
  exact Report.agree_refl _

namespace TableSchema

theorem agree_checkFields
    {left right : List FieldDeclaration}
    (reorders : List.Forall₂ FieldDeclaration.Reorders left right)
    (workspace : Workspace)
    (backend : Backend)
    (entity identifierName : String) :
    Report.Agree Eq (checkFields workspace backend entity identifierName left)
      (checkFields workspace backend entity identifierName right) := by
  induction reorders with
  | nil => exact Report.agree_refl _
  | cons here _ inductionHypothesis =>
      rw [checkFields, checkFields]
      refine (Field.agree_ofDeclaration here workspace backend entity identifierName).bind ?_
      rintro field _ rfl
      refine inductionHypothesis.bind ?_
      rintro fields _ rfl
      exact Report.agree_refl _

/-- Tables whose options stand in another order are checked alike. -/
theorem agree_ofDeclaration
    {left right : Declaration}
    (reorders : left.Reorders right)
    (workspace : Workspace)
    (choice : BackendChoice) :
    Report.Agree Eq (ofDeclaration workspace choice left)
      (ofDeclaration workspace choice right) := by
  rw [ofDeclaration, ofDeclaration, reorders.name, reorders.fieldNames_eq]
  refine (OptionGrammar.agree_collect .table _ reorders.attributes).bind ?_
  intro options others alike
  have same : ∀ key, options.lookup key = others.lookup key := alike
  simp only [chosenBackend, required, Options.text?, Options.insertable?, Options.flag, same]
  refine Report.agree_bind _ fun backend => ?_
  refine Report.agree_bind _ fun table => ?_
  refine Report.agree_bind _ fun identifierName => ?_
  split_ifs
  · refine (agree_checkFields reorders.fields workspace backend _ identifierName).bind ?_
    rintro fields _ rfl
    exact Report.agree_refl _
  · exact .refused

end TableSchema

/-! ## Patches -/

namespace PatchSchema

theorem agree_checkField
    {left right : FieldDeclaration}
    (reorders : left.Reorders right)
    (workspace : Workspace)
    (backend : Backend)
    (target : Option TableSchema)
    (entity : String) :
    Report.Agree Eq (checkField workspace backend target entity left)
      (checkField workspace backend target entity right) := by
  rw [checkField, checkField, reorders.name]
  refine (OptionGrammar.agree_collect .patchField _ reorders.attributes).bind ?_
  intro options others alike
  have same : ∀ key, options.lookup key = others.lookup key := alike
  simp only [Options.text?, Options.flag, same]
  exact Report.agree_refl _

theorem agree_checkFields
    {left right : List FieldDeclaration}
    (reorders : List.Forall₂ FieldDeclaration.Reorders left right)
    (workspace : Workspace)
    (backend : Backend)
    (target : Option TableSchema)
    (entity : String) :
    Report.Agree Eq (checkFields workspace backend target entity left)
      (checkFields workspace backend target entity right) := by
  induction reorders with
  | nil => exact Report.agree_refl _
  | cons here _ inductionHypothesis =>
      rw [checkFields, checkFields]
      refine (agree_checkField here workspace backend target entity).bind ?_
      rintro field _ rfl
      refine inductionHypothesis.bind ?_
      rintro fields _ rfl
      exact Report.agree_refl _

/-- Patches whose options stand in another order are checked alike. -/
theorem agree_ofDeclaration
    {left right : Declaration}
    (reorders : left.Reorders right)
    (workspace : Workspace)
    (choice : BackendChoice)
    (target : Option TableSchema) :
    Report.Agree Eq (ofDeclaration workspace choice target left)
      (ofDeclaration workspace choice target right) := by
  rw [ofDeclaration, ofDeclaration, reorders.name]
  refine (OptionGrammar.agree_collect .patch _ reorders.attributes).bind ?_
  intro options others alike
  have same : ∀ key, options.lookup key = others.lookup key := alike
  simp only [chosenBackend, TableSchema.required, requiredTarget, Options.text?, Options.target?,
    same]
  refine Report.agree_bind _ fun table => ?_
  refine Report.agree_bind _ fun value => ?_
  refine Report.agree_bind _ fun identifierColumn => ?_
  refine Report.agree_bind _ fun backend => ?_
  refine (agree_checkFields reorders.fields workspace backend target _).bind ?_
  rintro fields _ rfl
  exact Report.agree_refl _

end PatchSchema

/-! ## Compilation -/

/-- The order of options carries no meaning, neither for tables nor for patches. -/
theorem coincide_of_reorders
    {left right : Declaration}
    (reorders : left.Reorders right)
    (workspace : Workspace)
    (choice : BackendChoice) :
    (TableSchema.ofDeclaration workspace choice left).Coincide
        (TableSchema.ofDeclaration workspace choice right) ∧
      (compileTable workspace choice left).Coincide (compileTable workspace choice right) ∧
        ∀ target : Option TableSchema,
          (PatchSchema.ofDeclaration workspace choice target left).Coincide
              (PatchSchema.ofDeclaration workspace choice target right) ∧
            (compilePatch workspace choice target left).Coincide
              (compilePatch workspace choice target right) := by
  have tables := TableSchema.agree_ofDeclaration reorders workspace choice
  refine ⟨tables.coincide, ?_, fun target => ?_⟩
  · refine (tables.bind ?_).coincide
    rintro schema _ rfl
    exact Report.agree_refl _
  · have patches := PatchSchema.agree_ofDeclaration reorders workspace choice target
    refine ⟨patches.coincide, (patches.bind ?_).coincide⟩
    rintro schema _ rfl
    exact Report.agree_refl _

/-- A table of words whose names are reserved, so that it is declared with warnings. -/
def wordTable : Declaration where
  name := "Word"
  attributes := [⟨"table", .text "words"⟩, ⟨"id", .text "id"⟩, ⟨"insertable", .bool true⟩]
  fields :=
    [{ name := "id", attributes := [⟨"default", .bool true⟩, ⟨"get_one", .bool true⟩] },
      { name := "order", attributes := [⟨"set", .bool true⟩, ⟨"column", .text "group"⟩] }]

/-- The table of words is accepted with the same report when its options are reversed. -/
theorem reversed_wordTable :
    wordTable.Reorders wordTable.reversed ∧
      (TableSchema.ofDeclaration .standard .configured wordTable).outcome.isOk = true ∧
        TableSchema.ofDeclaration .standard .configured wordTable =
          TableSchema.ofDeclaration .standard .configured wordTable.reversed := by
  have accepted :
      (TableSchema.ofDeclaration .standard .configured wordTable).outcome.isOk = true := by
    decide +kernel
  have coincide := coincide_of_reorders wordTable.reorders_reversed .standard .configured
  exact ⟨wordTable.reorders_reversed, accepted, coincide.1.same accepted⟩

end SqlMapping
