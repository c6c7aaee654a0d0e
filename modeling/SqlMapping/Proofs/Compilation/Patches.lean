import SqlMapping.Entity.PatchClass
import SqlMapping.Proofs.Schema.Patch

/-!
# What compiling a patch consults

A patch declaration is compiled with the schema of the class that its target leads to.  The
registered backends are consulted besides, and the settings for one thing only: the default
backend, where the target has no schema or one without a backend.  Whether reserved names are
warned about never matters for the outcome.

The main statement says that compiling a declaration comes to the same whenever these agree.
-/

namespace SqlMapping

/--
Two workspaces in which a patch with a target of some schema is compiled alike: they have the same
backends, and the same default backend unless the target has a schema that names a backend.
-/
structure Workspace.SuitsAlike (left right : Workspace) (schema : Option TableSchema) : Prop where
  registry : left.registry = right.registry
  default :
    (schema.bind TableSchema.backend).isSome = true ∨
      left.settings.defaultBackend = right.settings.defaultBackend

namespace PatchSchema

variable {left right : Workspace} {target : Option TableSchema}

theorem resolve_chosenBackend_eq
    (alike : left.SuitsAlike right target)
    (options : Options) :
    left.resolve (chosenBackend options target .configured) =
      right.resolve (chosenBackend options target .configured) := by
  have configured (sameDefault : left.settings.defaultBackend = right.settings.defaultBackend) :
      left.registry.resolve left.settings .configured =
        left.registry.resolve right.settings .configured := by
    rw [Registry.resolve, Registry.resolve, sameDefault]
  rw [Workspace.resolve, Workspace.resolve, ← alike.registry, chosenBackend.eq_def]
  split
  case h_1 => rfl
  case h_2 schema noOption =>
    cases named : schema.backend with
    | some key => rfl
    | none =>
        refine configured (alike.default.resolve_left ?_)
        rw [Option.bind_some, named]
        decide
  case h_3 => exact configured (alike.default.resolve_left (by decide))

theorem outcome_checkField_eq
    (left right : Workspace)
    (backend : Backend)
    (target : Option TableSchema)
    (entity : String)
    (declaration : FieldDeclaration) :
    (checkField left backend target entity declaration).outcome =
      (checkField right backend target entity declaration).outcome := by
  -- The warning about a reserved name is all that the workspace is consulted for.
  have warned (location identifier : String) (next : PUnit → Report PatchField) :
      (if backend.isReserved identifier = true then
          warnReserved left.settings backend location identifier >>= next
        else next ⟨⟩).outcome =
      (if backend.isReserved identifier = true then
          warnReserved right.settings backend location identifier >>= next
        else next ⟨⟩).outcome := by
    split_ifs
    · rw [Report.outcome_bind, Report.outcome_bind, outcome_warnReserved, outcome_warnReserved]
    · rfl
  rw [checkField, checkField, Report.outcome_bind, Report.outcome_bind]
  congr 1
  funext options
  cases target with
  | none =>
      dsimp only
      rw [Report.outcome_bind, Report.outcome_bind]
      congr 1
      funext _
      exact warned _ _ _
  | some schema =>
      dsimp only
      by_cases isField : isPatchable schema declaration.name = true
      · rw [if_pos isField, if_pos isField]
        exact warned _ _ _
      · rw [if_neg isField, if_neg isField, Report.outcome_bind, Report.outcome_bind]
        rfl

theorem outcome_checkFields_eq
    (left right : Workspace)
    (backend : Backend)
    (target : Option TableSchema)
    (entity : String)
    (declarations : List FieldDeclaration) :
    (checkFields left backend target entity declarations).outcome =
      (checkFields right backend target entity declarations).outcome := by
  induction declarations with
  | nil => rfl
  | cons declaration rest inductionHypothesis =>
      rw [checkFields, checkFields, Report.outcome_bind, Report.outcome_bind,
        outcome_checkField_eq left right]
      congr 1
      funext field
      rw [Report.outcome_bind, Report.outcome_bind, inductionHypothesis]

theorem outcome_ofDeclaration_eq
    (alike : left.SuitsAlike right target)
    (declaration : Declaration) :
    (ofDeclaration left .configured target declaration).outcome =
      (ofDeclaration right .configured target declaration).outcome := by
  rw [ofDeclaration, ofDeclaration]
  simp only [Report.outcome_bind, resolve_chosenBackend_eq alike,
    outcome_checkFields_eq left right]

/-- A compiled patch keeps its schema. -/
theorem schema_of_compile
    {schema : PatchSchema}
    {backend : Backend}
    {plan : PatchPlan}
    (compiled : (schema.compile backend).outcome = .ok plan) :
    plan.schema = schema := by
  rw [compile] at compiled
  split_ifs at compiled
  · cases compiled
  · cases compiled
    rfl

end PatchSchema

/-- The schema of a compiled patch names the backend that the declaration was checked for. -/
theorem exists_backend_of_compilePatch
    {workspace : Workspace}
    {choice : BackendChoice}
    {target : Option TableSchema}
    {declaration : Declaration}
    {plan : PatchPlan}
    (compiled : (compilePatch workspace choice target declaration).outcome = .ok plan) :
    ∃ key, plan.schema.backend = some key := by
  rw [compilePatch] at compiled
  rcases Report.bind_outcome_eq_ok_iff.1 compiled with ⟨schema, accepted, compiled⟩
  rcases Report.bind_outcome_eq_ok_iff.1 compiled with ⟨backend, -, compiled⟩
  rcases PatchSchema.exists_of_ofDeclaration accepted with ⟨checking, isChecked, -⟩
  rw [PatchSchema.schema_of_compile compiled]
  exact ⟨checking.name, isChecked⟩

/-- A patch is compiled alike by workspaces that suit its target alike. -/
theorem Classes.outcome_compileDeclared_eq
    {left right : Workspace}
    {target other : PathTarget}
    (sameSchema : other.schema? = target.schema?)
    (alike : left.SuitsAlike right target.schema?)
    (declaration : Declaration) :
    (compileDeclared left declaration target).outcome =
      (compileDeclared right declaration other).outcome := by
  have registered (key : String) :
      left.resolve (.ofKey? (some key)) = right.resolve (.ofKey? (some key)) := by
    rw [Workspace.resolve, Workspace.resolve, alike.registry]
    rfl
  have samePlan :
      (compilePatch left .configured target.schema? declaration).outcome =
        (compilePatch right .configured target.schema? declaration).outcome := by
    rw [compilePatch, compilePatch, Report.outcome_bind, Report.outcome_bind,
      PatchSchema.outcome_ofDeclaration_eq alike]
    cases accepted : (PatchSchema.ofDeclaration right .configured target.schema?
        declaration).outcome with
    | error error => rfl
    | ok schema =>
        rcases PatchSchema.exists_of_ofDeclaration accepted with ⟨checking, isChecked, -⟩
        rw [Outcome.ok_bind, Outcome.ok_bind, isChecked, registered]
  rw [compileDeclared, compileDeclared, sameSchema, Report.outcome_bind, Report.outcome_bind,
    samePlan]
  cases compiled : (compilePatch right .configured target.schema? declaration).outcome with
  | error error => rfl
  | ok plan =>
      rcases exists_backend_of_compilePatch compiled with ⟨key, isNamed⟩
      rw [Outcome.ok_bind, Outcome.ok_bind, isNamed, registered]

end SqlMapping
