import SqlMapping.Compilation
import SqlMapping.Proofs.Schema.Acceptance

/-!
# Accepted patch declarations

A declared field of a patch has a column of its own, and where the entity of the patch is known it
is one of its fields other than the identifier.

The main statement says what the schema of an accepted patch is.
-/

namespace SqlMapping

/-- The column that a declared field of a patch is written to: its option, or else its name. -/
def FieldDeclaration.patchedColumn (declaration : FieldDeclaration) : String :=
  (Attribute.text? declaration.attributes "column").getD declaration.name

/-- A field of a patch is the one that its accepted options determine. -/
def PatchField.IsRead
    (backend : Backend)
    (target : Option TableSchema)
    (entity : String)
    (declaration : FieldDeclaration)
    (field : PatchField) :
    Prop :=
  ∃ options : Options,
    OptionGrammar.patchField.collect (entity ++ "." ++ declaration.name) declaration.attributes =
        .ok options ∧
      (∀ schema ∈ target, PatchSchema.isPatchable schema declaration.name = true) ∧
        field =
          { name := declaration.name
            column := declaration.patchedColumn
            isCustomType := options.flag "custom_type"
            isReserved := backend.isReserved declaration.patchedColumn
            byReference := options.flag "by_ref" }

namespace PatchSchema

variable {workspace : Workspace} {backend : Backend} {target : Option TableSchema}
  {entity : String}

theorem isRead_of_checkField
    {declaration : FieldDeclaration}
    {field : PatchField}
    (accepted :
      (checkField workspace backend target entity declaration).outcome = .ok field) :
    PatchField.IsRead backend target entity declaration field := by
  rw [checkField] at accepted
  dsimp only at accepted
  rcases Report.bind_outcome_eq_ok_iff.1 accepted with ⟨options, collected, accepted⟩
  rw [Report.outcome_ofExcept] at collected
  have column : options.text? "column" = Attribute.text? declaration.attributes "column" :=
    Options.text?_of_collect collected rfl
  rw [column] at accepted
  refine ⟨options, collected, ?_⟩
  cases target with
  | none =>
      rcases Report.bind_outcome_eq_ok_iff.1 accepted with ⟨⟨⟩, -, accepted⟩
      have same := Except.ok.inj ((outcome_of_warned _ _ _ _ _ _).symm.trans accepted)
      refine ⟨?_, same.symm⟩
      intro schema impossible
      cases impossible
  | some schema =>
      by_cases isField : isPatchable schema declaration.name = true
      · dsimp only at accepted
        rw [if_pos isField] at accepted
        have same := Except.ok.inj ((outcome_of_warned _ _ _ _ _ _).symm.trans accepted)
        refine ⟨?_, same.symm⟩
        rintro other ⟨⟩
        exact isField
      · dsimp only at accepted
        rw [if_neg isField] at accepted
        cases accepted

theorem isRead_of_checkFields
    {declarations : List FieldDeclaration}
    {fields : List PatchField}
    (accepted :
      (checkFields workspace backend target entity declarations).outcome = .ok fields) :
    List.Forall₂ (PatchField.IsRead backend target entity) declarations fields := by
  induction declarations generalizing fields with
  | nil =>
      cases accepted
      exact .nil
  | cons declaration rest inductionHypothesis =>
      rw [checkFields, Report.bind_outcome_eq_ok_iff] at accepted
      rcases accepted with ⟨field, isRead, accepted⟩
      rcases Report.bind_outcome_eq_ok_iff.1 accepted with ⟨others, restRead, equal⟩
      cases equal
      exact .cons (isRead_of_checkField isRead) (inductionHypothesis restRead)

/-- The schema of an accepted patch says what is declared. -/
theorem exists_of_ofDeclaration
    {choice : BackendChoice}
    {declaration : Declaration}
    {schema : PatchSchema}
    (accepted : (ofDeclaration workspace choice target declaration).outcome = .ok schema) :
    ∃ backend : Backend,
      schema.backend = some backend.name ∧
        schema.entity = declaration.name ∧
        Attribute.text? declaration.attributes "table_name" = some schema.targetTable ∧
        Attribute.text? declaration.attributes "id" = some schema.identifierColumn ∧
        List.Forall₂ (PatchField.IsRead backend target declaration.name) declaration.fields
          schema.fields := by
  rw [ofDeclaration] at accepted
  rcases Report.bind_outcome_eq_ok_iff.1 accepted with ⟨options, collected, accepted⟩
  rcases Report.bind_outcome_eq_ok_iff.1 accepted with ⟨table, isTable, accepted⟩
  rcases Report.bind_outcome_eq_ok_iff.1 accepted with ⟨targetValue, -, accepted⟩
  rcases Report.bind_outcome_eq_ok_iff.1 accepted with ⟨key, isKey, accepted⟩
  rcases Report.bind_outcome_eq_ok_iff.1 accepted with ⟨backend, -, accepted⟩
  rcases Report.bind_outcome_eq_ok_iff.1 accepted with ⟨fields, areRead, accepted⟩
  rcases Report.bind_outcome_eq_ok_iff.1 accepted with ⟨⟨⟩, -, accepted⟩
  rw [Report.outcome_ofExcept] at collected isTable isKey
  rw [TableSchema.required_eq_ok_iff, Options.text?_of_collect collected rfl] at isTable isKey
  cases accepted
  exact ⟨backend, rfl, rfl, isTable, isKey, isRead_of_checkFields areRead⟩

end PatchSchema

end SqlMapping
