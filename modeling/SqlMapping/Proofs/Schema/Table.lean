import SqlMapping.Proofs.Schema.Options
import SqlMapping.Schema.Table

/-!
# Accepted table declarations

A table declaration is accepted when every check of it succeeds, and then its schema is
determined by its options and by those of its fields.

The main statements say when a field and a declaration are accepted, and what their schema is.
-/

namespace SqlMapping

namespace Report

@[simp]
theorem outcome_ofExcept {α : Type} (outcome : Except BuildError α) :
    (ofExcept outcome).outcome = outcome := rfl

/-- An outcome that is known to be a success adds nothing to what follows. -/
theorem ofExcept_ok_bind
    {α β : Type}
    (value : α)
    (next : α → Report β) :
    (ofExcept (.ok value) >>= next) = next value := by
  rw [ofExcept, bind_ok, List.nil_append]

/-- A sequence of reports succeeds when both parts do. -/
theorem bind_outcome_eq_ok_iff
    {α β : Type}
    {report : Report α}
    {next : α → Report β}
    {result : β} :
    (report >>= next).outcome = .ok result ↔
      ∃ value, report.outcome = .ok value ∧ (next value).outcome = .ok result := by
  rw [outcome_bind, Outcome.bind_eq_ok_iff]

end Report

theorem outcome_warnReserved
    (settings : Settings)
    (backend : Backend)
    (location identifier : String) :
    (warnReserved settings backend location identifier).outcome = .ok () := by
  rw [warnReserved]
  split_ifs
  · rfl
  · rfl

/-- What is warned about is accepted all the same. -/
theorem outcome_of_warned
    {α : Type}
    (settings : Settings)
    (backend : Backend)
    (location identifier : String)
    (isReserved : Prop)
    [Decidable isReserved]
    (value : α) :
    (if isReserved then
        warnReserved settings backend location identifier >>= fun _ => pure value
      else pure value).outcome = .ok value := by
  split_ifs
  · rw [Report.outcome_bind, outcome_warnReserved]
    rfl
  · rfl

namespace Field

/-- A field is the one that its accepted options determine. -/
def IsRead
    (backend : Backend)
    (entity identifierName : String)
    (declaration : FieldDeclaration)
    (field : Field) : Prop :=
  ∃ options : Options,
    OptionGrammar.tableField.collect (entity ++ "." ++ declaration.name) declaration.attributes =
        .ok options ∧
      field = ofOptions backend identifierName declaration options

/-- A field is accepted when its options are; warnings do not matter. -/
theorem ofDeclaration_eq_ok_iff
    {workspace : Workspace}
    {backend : Backend}
    {entity identifierName : String}
    {declaration : FieldDeclaration}
    {field : Field} :
    (ofDeclaration workspace backend entity identifierName declaration).outcome = .ok field ↔
      IsRead backend entity identifierName declaration field := by
  rw [ofDeclaration, IsRead]
  dsimp only
  rw [Report.bind_outcome_eq_ok_iff]
  refine exists_congr fun options => and_congr Iff.rfl ?_
  rw [outcome_of_warned, Except.ok.injEq, eq_comm]

/-- Fields have the names of their declarations. -/
theorem map_name_of_isRead
    {backend : Backend}
    {entity identifierName : String}
    {declarations : List FieldDeclaration}
    {fields : List Field}
    (read : List.Forall₂ (IsRead backend entity identifierName) declarations fields) :
    fields.map name = declarations.map FieldDeclaration.name := by
  induction read with
  | nil => rfl
  | cons here _ inductionHypothesis =>
      rcases here with ⟨options, -, rfl⟩
      rw [List.map_cons, List.map_cons, inductionHypothesis]
      rfl

/-- The identifier is the field of the name that was declared for it. -/
theorem isIdentifier_iff_of_isRead
    {backend : Backend}
    {entity identifierName : String}
    {declarations : List FieldDeclaration}
    {fields : List Field}
    (read : List.Forall₂ (IsRead backend entity identifierName) declarations fields) :
    ∀ field ∈ fields, field.isIdentifier = true ↔ field.name = identifierName := by
  induction read with
  | nil =>
      intro field member
      cases member
  | cons here _ inductionHypothesis =>
      intro field member
      rcases List.mem_cons.1 member with rfl | isRest
      · rcases here with ⟨options, -, rfl⟩
        exact beq_iff_eq
      · exact inductionHypothesis field isRest

end Field

namespace TableSchema

/-- The fields of a declaration are accepted when each of them is. -/
theorem checkFields_eq_ok_iff
    {workspace : Workspace}
    {backend : Backend}
    {entity identifierName : String}
    {declarations : List FieldDeclaration}
    {fields : List Field} :
    (checkFields workspace backend entity identifierName declarations).outcome = .ok fields ↔
      List.Forall₂ (Field.IsRead backend entity identifierName) declarations fields := by
  induction declarations generalizing fields with
  | nil =>
      rw [List.forall₂_nil_left_iff, checkFields]
      show Except.ok [] = Except.ok fields ↔ fields = []
      rw [Except.ok.injEq, eq_comm]
  | cons declaration rest inductionHypothesis =>
      rw [checkFields, List.forall₂_cons_left_iff, Report.bind_outcome_eq_ok_iff]
      constructor
      · rintro ⟨field, read, remaining⟩
        rcases Report.bind_outcome_eq_ok_iff.1 remaining with ⟨others, restRead, equal⟩
        cases equal
        exact
          ⟨field, others, Field.ofDeclaration_eq_ok_iff.1 read, inductionHypothesis.1 restRead, rfl⟩
      · rintro ⟨field, others, read, restRead, rfl⟩
        refine ⟨field, Field.ofDeclaration_eq_ok_iff.2 read, ?_⟩
        exact Report.bind_outcome_eq_ok_iff.2 ⟨others, inductionHypothesis.2 restRead, rfl⟩

theorem required_eq_ok_iff
    {options : Options}
    {key location value : String} :
    required options key location = .ok value ↔ options.text? key = some value := by
  rw [required]
  cases options.text? key with
  | none => simp
  | some content => simp

/-- A declaration is accepted when its options, its fields and what concerns several fields are. -/
theorem ofDeclaration_eq_ok_iff
    {workspace : Workspace}
    {choice : BackendChoice}
    {declaration : Declaration}
    {schema : TableSchema} :
    (ofDeclaration workspace choice declaration).outcome = .ok schema ↔
      ∃ (options : Options) (backend : Backend) (table identifierName : String)
        (fields : List Field) (identifier : Field),
        OptionGrammar.table.collect declaration.name declaration.attributes = .ok options ∧
          workspace.resolve (chosenBackend options choice) = .ok backend ∧
          options.text? "table" = some table ∧
          options.text? "id" = some identifierName ∧
          identifierName ∈ declaration.fieldNames ∧
          List.Forall₂ (Field.IsRead backend declaration.name identifierName)
            declaration.fields fields ∧
          checkDefaults declaration.name
              ((options.insertable? "insertable").map (insertSpec declaration.name)) fields =
            .ok () ∧
          fields.find? Field.isIdentifier = some identifier ∧
          checkGeneratedNames declaration.name [] fields = .ok () ∧
          schema =
            { entity := declaration.name
              visibility := visibilityOf declaration.name
              table := table
              identifier := identifier
              fields := fields
              insertable :=
                (options.insertable? "insertable").map (insertSpec declaration.name)
              deletable := options.flag "deletable"
              backend := backend.name } := by
  rw [ofDeclaration]
  dsimp only
  constructor
  · intro accepted
    rcases Report.bind_outcome_eq_ok_iff.1 accepted with ⟨options, collected, accepted⟩
    rcases Report.bind_outcome_eq_ok_iff.1 accepted with ⟨backend, resolved, accepted⟩
    rcases Report.bind_outcome_eq_ok_iff.1 accepted with ⟨table, isTable, accepted⟩
    rcases Report.bind_outcome_eq_ok_iff.1 accepted with ⟨identifierName, isName, accepted⟩
    split_ifs at accepted with isField
    · rcases Report.bind_outcome_eq_ok_iff.1 accepted with ⟨fields, read, accepted⟩
      rcases Report.bind_outcome_eq_ok_iff.1 accepted with ⟨⟨⟩, defaults, accepted⟩
      cases found : fields.find? Field.isIdentifier with
      | none =>
          rw [found] at accepted
          cases accepted
      | some identifier =>
          rw [found] at accepted
          rcases Report.bind_outcome_eq_ok_iff.1 accepted with ⟨⟨⟩, distinct, accepted⟩
          cases accepted
          exact
            ⟨options, backend, table, identifierName, fields, identifier, collected, resolved,
              required_eq_ok_iff.1 isTable, required_eq_ok_iff.1 isName,
              List.contains_iff_mem.1 isField, checkFields_eq_ok_iff.1 read, defaults, found,
              distinct, rfl⟩
    · cases accepted
  · rintro ⟨options, backend, table, identifierName, fields, identifier, collected, resolved,
      isTable, isName, isField, read, defaults, found, distinct, rfl⟩
    refine Report.bind_outcome_eq_ok_iff.2 ⟨options, collected, ?_⟩
    refine Report.bind_outcome_eq_ok_iff.2 ⟨backend, resolved, ?_⟩
    refine Report.bind_outcome_eq_ok_iff.2 ⟨table, required_eq_ok_iff.2 isTable, ?_⟩
    refine Report.bind_outcome_eq_ok_iff.2 ⟨identifierName, required_eq_ok_iff.2 isName, ?_⟩
    rw [if_pos (List.contains_iff_mem.2 isField)]
    refine Report.bind_outcome_eq_ok_iff.2 ⟨fields, checkFields_eq_ok_iff.2 read, ?_⟩
    refine Report.bind_outcome_eq_ok_iff.2 ⟨(), defaults, ?_⟩
    rw [found]
    exact Report.bind_outcome_eq_ok_iff.2 ⟨(), distinct, rfl⟩

end TableSchema

end SqlMapping
