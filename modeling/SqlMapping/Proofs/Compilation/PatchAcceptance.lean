import SqlMapping.Proofs.Compilation.Patches

/-!
# Acceptance of patch declarations

A patch declaration is well-formed when its options and those of its fields are allowed, given once
and of their shapes, its mandatory options and its backend are there, it has a field, and each of
its fields is one that its target lets be patched, where a target is known.

The backend is that of an option, or else the one that the schema of the target stands for, or else,
where no schema is known, the caller's.  A schema need not name a backend; one that does not stands
for the configured backend, and the caller's choice does not count beside it.

The main statement says that exactly the well-formed declarations are accepted and compiled, and
that any other is refused for the first requirement that it does not meet.
-/

namespace SqlMapping

/--
A table lets a field be patched if it has a field of that name other than the identifier.  Where it
has several fields of the name, the first one counts.
-/
def TableSchema.Offers (schema : TableSchema) (name : String) : Prop :=
  ∃ field : Field, schema.field? name = some field ∧ field.isIdentifier = false

/-- In a declared table, fields of one name are alike in being the identifier. -/
theorem TableSchema.offers_iff_of_ofDeclaration
    {workspace : Workspace}
    {choice : BackendChoice}
    {declaration : Declaration}
    {schema : TableSchema}
    (accepted : (ofDeclaration workspace choice declaration).outcome = .ok schema)
    (name : String) :
    schema.Offers name ↔
      ∃ field ∈ schema.fields, field.name = name ∧ field.isIdentifier = false := by
  rcases ofDeclaration_eq_ok_iff.1 accepted with
    ⟨_, backend, _, identifierName, fields, _, -, -, -, -, -, reads, -, -, -, rfl⟩
  have isNamed := Field.isIdentifier_iff_of_isRead reads
  constructor
  · rintro ⟨field, found, isOther⟩
    exact ⟨field, List.mem_of_find?_eq_some found, by simpa using List.find?_some found, isOther⟩
  · rintro ⟨field, member, rfl, isOther⟩
    cases found : fields.find? fun other => other.name == field.name with
    | none =>
        have noField := List.find?_eq_none.1 found field member
        exact absurd (beq_self_eq_true field.name) noField
    | some first =>
        have sameName : first.name = field.name := by simpa using List.find?_some found
        refine ⟨first, found, Bool.eq_false_iff.2 fun isIdentifier => ?_⟩
        have isIdentifierName := (isNamed first (List.mem_of_find?_eq_some found)).1 isIdentifier
        rw [sameName, ← isNamed field member, isOther] at isIdentifierName
        cases isIdentifierName

namespace Declaration

/-- The options that a patch has to have, in the order in which they are missed. -/
def mandatoryPatchOptions : List String := ["table_name", "table", "id"]

/--
The choice of a backend that a patch makes, or else the one that its target stands for, or else,
where no target is known, its caller's.
-/
def patchBackendChoice
    (declaration : Declaration)
    (target : Option TableSchema)
    (choice : BackendChoice) :
    BackendChoice :=
  match Attribute.text? declaration.attributes "backend", target with
  | some key, _ => .registered key
  | none, some schema => .ofKey? schema.backend
  | none, none => choice

/-- The first choice of a backend that is made at all: by a patch, by its target, by its caller. -/
def firstBackendChoice
    (declaration : Declaration)
    (target : Option TableSchema)
    (choice : BackendChoice) :
    BackendChoice :=
  ((Attribute.text? declaration.attributes "backend").or
    (target.bind TableSchema.backend)).elim choice .registered

/-- Where the target, if there is one, names a backend, the first choice that is made counts. -/
theorem patchBackendChoice_eq_firstBackendChoice
    {target : Option TableSchema}
    (areNamed : ∀ schema ∈ target, schema.backend.isSome = true)
    (declaration : Declaration)
    (choice : BackendChoice) :
    declaration.patchBackendChoice target choice =
      declaration.firstBackendChoice target choice := by
  rw [patchBackendChoice.eq_def, firstBackendChoice]
  cases Attribute.text? declaration.attributes "backend" with
  | some key => rfl
  | none =>
      cases target with
      | none => rfl
      | some schema =>
          rcases Option.isSome_iff_exists.1 (areNamed schema rfl) with ⟨key, isKey⟩
          dsimp only
          rw [Option.bind_some, isKey]
          rfl

/-- A declaration that a patch with a statement can be made of, with the backend of a choice. -/
structure IsWellFormedPatch
    (workspace : Workspace)
    (chosen : BackendChoice)
    (target : Option TableSchema)
    (declaration : Declaration) :
    Prop where
  options : OptionGrammar.patch.Accepts declaration.attributes
  mandatory : ∀ key ∈ mandatoryPatchOptions, ∃ option ∈ declaration.attributes, option.key = key
  backend : workspace.Has chosen
  fields : ∀ field ∈ declaration.fields, OptionGrammar.patchField.Accepts field.attributes
  offered : ∀ schema ∈ target, ∀ field ∈ declaration.fields, schema.Offers field.name
  filled : declaration.fields ≠ []

/-- What is required of a field of a patch: first of its options, and last of its target. -/
def patchFieldRequirements
    (target : Option TableSchema)
    (entity : String)
    (field : FieldDeclaration) :
    List Requirement :=
  let location := entity ++ "." ++ field.name
  OptionGrammar.patchField.requirements location [] field.attributes ++
  target.toList.map fun schema =>
    ⟨schema.Offers field.name, .unknownPatchField field.name schema.entity location⟩

/-- What is required of a patch that is checked, in the order in which it is refused for it. -/
def patchRequirements
    (workspace : Workspace)
    (choice : BackendChoice)
    (target : Option TableSchema)
    (declaration : Declaration) :
    List Requirement :=
  let entity := declaration.name
  let choice := declaration.patchBackendChoice target choice
  OptionGrammar.patch.requirements entity [] declaration.attributes ++
  (mandatoryPatchOptions.map fun key =>
    ⟨∃ option ∈ declaration.attributes, option.key = key, .missingAttribute key entity⟩) ++
  [⟨workspace.Has choice,
      .compilation
        (.unsupportedBackend ((workspace.keyOf? choice).getD "") workspace.registry.keys)⟩] ++
  declaration.fields.flatMap (patchFieldRequirements target entity)

/-- What is required of a patch that is checked and then compiled. -/
def patchPlanRequirements
    (workspace : Workspace)
    (choice : BackendChoice)
    (target : Option TableSchema)
    (declaration : Declaration) :
    List Requirement :=
  declaration.patchRequirements workspace choice target ++
  [⟨declaration.fields ≠ [], .compilation (.emptyPatch declaration.name)⟩]

/-- A patch declaration is well-formed exactly when it meets every requirement. -/
theorem allHold_patchPlanRequirements_iff
    {workspace : Workspace}
    {choice : BackendChoice}
    {target : Option TableSchema}
    {declaration : Declaration} :
    Requirement.AllHold (declaration.patchPlanRequirements workspace choice target) ↔
      declaration.IsWellFormedPatch workspace (declaration.patchBackendChoice target choice)
        target := by
  have offered (field : FieldDeclaration) :
      Requirement.AllHold (patchFieldRequirements target declaration.name field) ↔
        OptionGrammar.patchField.Accepts field.attributes ∧
          ∀ schema ∈ target, schema.Offers field.name := by
    rw [patchFieldRequirements, Requirement.allHold_append_iff,
      OptionGrammar.allHold_iff_accepts, Requirement.AllHold,
      List.forall_mem_map]
    simp only [Option.mem_toList, Option.mem_def]
  have fields :
      Requirement.AllHold
          (declaration.fields.flatMap (patchFieldRequirements target declaration.name)) ↔
        ∀ field ∈ declaration.fields, OptionGrammar.patchField.Accepts field.attributes ∧
          ∀ schema ∈ target, schema.Offers field.name := by
    rw [Requirement.AllHold, List.forall_mem_flatMap]
    exact forall₂_congr fun field _ => offered field
  rw [patchPlanRequirements, patchRequirements, Requirement.allHold_append_iff,
    Requirement.allHold_append_iff, Requirement.allHold_append_iff,
    Requirement.allHold_append_iff, OptionGrammar.allHold_iff_accepts, fields,
    Requirement.allHold_singleton_iff, Requirement.allHold_singleton_iff, Requirement.AllHold,
    List.forall_mem_map]
  constructor
  · rintro ⟨⟨⟨⟨options, mandatory⟩, backend⟩, fields⟩, filled⟩
    exact
      ⟨options, mandatory, backend, fun field member => (fields field member).1,
        fun schema isTarget field member => (fields field member).2 schema isTarget, filled⟩
  · rintro ⟨options, mandatory, backend, fields, offered, filled⟩
    exact
      ⟨⟨⟨⟨options, mandatory⟩, backend⟩, fun field member =>
        ⟨fields field member, fun schema isTarget => offered schema isTarget field member⟩⟩,
        filled⟩

end Declaration

/-! ## Checks of patches -/

namespace OptionShape

theorem eq_target_of_read
    {value : Value}
    {result : OptionValue}
    (reads : target.read value = .ok result) :
    ∃ entity, result = .target entity := by
  rw [read.eq_def] at reads
  dsimp only at reads
  split at reads
  · split_ifs at reads
    cases reads
    exact ⟨_, rfl⟩
  · cases isText : nonEmptyText? value with
    | none =>
        rw [isText] at reads
        cases reads
    | some path =>
        rw [isText] at reads
        cases reads
        exact ⟨_, rfl⟩

end OptionShape

namespace PatchSchema

variable {workspace : Workspace} {backend : Backend} {target : Option TableSchema}
  {entity : String}

theorem isPatchable_iff {schema : TableSchema} {name : String} :
    isPatchable schema name = true ↔ schema.Offers name := by
  rw [isPatchable, TableSchema.Offers]
  cases schema.field? name with
  | none => simp
  | some field => simp

theorem decides_requiredTarget
    {attributes : List Attribute}
    {options : Options}
    {location : String}
    (collected : OptionGrammar.patch.collect location attributes = .ok options) :
    Requirement.Decides
      [⟨∃ option ∈ attributes, option.key = "table", .missingAttribute "table" location⟩]
      (requiredTarget options location) := by
  have isTarget : OptionGrammar.patch.lookup "table" = some .target := rfl
  have given :
      (options.target? "table").isSome = (Attribute.value? attributes "table").isSome := by
    rcases OptionGrammar.lookup_of_collect collected isTarget with
      ⟨undeclared, absent⟩ | ⟨value, result, declared, reads, found⟩
    · rw [Options.target?, undeclared, absent]
    · rcases OptionShape.eq_target_of_read reads with ⟨entity, rfl⟩
      rw [Options.target?, declared, found]
      rfl
  rw [← Attribute.isSome_value?_iff, ← given, requiredTarget]
  cases options.target? "table" with
  | none => exact .here Bool.false_ne_true
  | some value => exact Requirement.allHold_singleton_iff.2 rfl

/-- Checking a field decides what is required of its options and of its target. -/
theorem decides_checkField (declaration : FieldDeclaration) :
    Requirement.Decides (Declaration.patchFieldRequirements target entity declaration)
      (checkField workspace backend target entity declaration).outcome := by
  rw [Declaration.patchFieldRequirements, checkField, Report.outcome_bind]
  refine (OptionGrammar.decides_collectAfter .patchField _ [] _).bind fun options _ => ?_
  cases target with
  | none =>
      dsimp only
      rw [Report.outcome_bind]
      show Requirement.Decides [] (Report.outcome _)
      rw [outcome_of_warned]
      exact Requirement.decides_nil _
  | some schema =>
      dsimp only
      apply Requirement.Decides.cons
      · intro unknown
        rw [if_neg fun isField => unknown (isPatchable_iff.1 isField)]
        rfl
      · intro isOffered
        rw [if_pos (isPatchable_iff.2 isOffered), outcome_of_warned]
        exact Requirement.decides_nil _

theorem decides_checkFields (declarations : List FieldDeclaration) :
    Requirement.Decides
      (declarations.flatMap (Declaration.patchFieldRequirements target entity))
      (checkFields workspace backend target entity declarations).outcome := by
  induction declarations with
  | nil => exact Requirement.decides_nil _
  | cons declaration rest inductionHypothesis =>
      rw [List.flatMap_cons, checkFields, Report.outcome_bind]
      refine (decides_checkField declaration).bind fun field _ => ?_
      rw [Report.outcome_bind]
      exact inductionHypothesis.map

/-- The checks of a patch decide what is required of it, in that order. -/
theorem decides_ofDeclaration
    (workspace : Workspace)
    (choice : BackendChoice)
    (target : Option TableSchema)
    (declaration : Declaration) :
    Requirement.Decides (declaration.patchRequirements workspace choice target)
      (ofDeclaration workspace choice target declaration).outcome := by
  rw [ofDeclaration, Declaration.patchRequirements, Declaration.mandatoryPatchOptions]
  simp only [List.map_cons, List.map_nil, List.append_assoc, List.cons_append, List.nil_append]
  -- Each check decides the requirements at the head of the list and leaves those of the next ones.
  rw [Report.outcome_bind]
  refine (OptionGrammar.decides_collectAfter .patch declaration.name [] _).bind ?_
  intro options collected
  have chosen :
      chosenBackend options target choice = declaration.patchBackendChoice target choice := by
    rw [chosenBackend.eq_def, Options.text?_of_collect collected rfl]
    rfl
  rw [Report.outcome_bind]
  refine (TableSchema.decides_required collected rfl).bind fun table _ => ?_
  rw [Report.outcome_bind]
  refine (decides_requiredTarget collected).bind fun value _ => ?_
  rw [Report.outcome_bind]
  refine (TableSchema.decides_required collected rfl).bind fun identifierColumn _ => ?_
  rw [Report.outcome_bind, chosen]
  refine (TableSchema.decides_resolve workspace _).bind fun backend _ => ?_
  rw [Report.outcome_bind]
  exact (decides_checkFields declaration.fields).map

/-- The schema of an accepted patch has as many fields as are declared. -/
theorem length_fields_of_ofDeclaration
    {choice : BackendChoice}
    {declaration : Declaration}
    {schema : PatchSchema}
    (accepted : (ofDeclaration workspace choice target declaration).outcome = .ok schema) :
    schema.fields.length = declaration.fields.length := by
  rcases exists_of_ofDeclaration accepted with ⟨backend, -, -, -, -, fields⟩
  exact fields.length_eq.symm

/-- A patch without fields is not compiled. -/
theorem decides_compile
    {choice : BackendChoice}
    {declaration : Declaration}
    {schema : PatchSchema}
    (accepted : (ofDeclaration workspace choice target declaration).outcome = .ok schema)
    (backend : Backend) :
    Requirement.Decides
      [⟨declaration.fields ≠ [], .compilation (.emptyPatch declaration.name)⟩]
      (schema.compile backend).outcome := by
  rcases exists_of_ofDeclaration accepted with ⟨checked, -, sameName, -, -, -⟩
  have isEmpty : schema.fields.isEmpty = true ↔ declaration.fields = [] := by
    rw [List.isEmpty_iff, ← List.length_eq_zero_iff, ← List.length_eq_zero_iff,
      length_fields_of_ofDeclaration accepted]
  rw [compile]
  by_cases noField : declaration.fields = []
  · rw [if_pos (isEmpty.2 noField), sameName]
    exact .here (not_not.2 noField)
  · rw [if_neg fun empty => noField (isEmpty.1 empty)]
    exact Requirement.allHold_singleton_iff.2 noField

/--
Exactly the well-formed declarations are accepted and compiled, and any other is refused as it is
first.  The backend is the first that is chosen, unless there is a target that names none.  A
declared table lets those of its fields be patched that are not the identifier.
-/
theorem outcome_compile_iff
    (workspace : Workspace)
    (choice : BackendChoice)
    (target : Option TableSchema)
    (declaration : Declaration)
    (lowering : PatchSchema → Backend) :
    ((∃ plan,
          (ofDeclaration workspace choice target declaration >>= fun schema =>
            schema.compile (lowering schema)).outcome = .ok plan) ↔
        declaration.IsWellFormedPatch workspace (declaration.patchBackendChoice target choice)
          target) ∧
      (∀ error,
          (ofDeclaration workspace choice target declaration >>= fun schema =>
              schema.compile (lowering schema)).outcome = .error error ↔
            Requirement.FirstRefusal (declaration.patchPlanRequirements workspace choice target)
              error) ∧
        ((∀ schema ∈ target, schema.backend.isSome = true) →
          declaration.patchBackendChoice target choice =
            declaration.firstBackendChoice target choice) ∧
        ∀ schema ∈ target,
          (∃ (other : Workspace) (otherChoice : BackendChoice) (table : Declaration),
              (TableSchema.ofDeclaration other otherChoice table).outcome = .ok schema) →
            ∀ name,
              schema.Offers name ↔
                ∃ field ∈ schema.fields, field.name = name ∧ field.isIdentifier = false := by
  have decides :
      Requirement.Decides (declaration.patchPlanRequirements workspace choice target)
        (ofDeclaration workspace choice target declaration >>= fun schema =>
          schema.compile (lowering schema)).outcome := by
    rw [Declaration.patchPlanRequirements, Report.outcome_bind]
    exact
      (decides_ofDeclaration workspace choice target declaration).bind fun schema accepted =>
        decides_compile accepted (lowering schema)
  refine ⟨?_, fun error => decides.eq_error_iff,
    fun areNamed => Declaration.patchBackendChoice_eq_firstBackendChoice areNamed declaration
      choice, ?_⟩
  · rw [decides.exists_ok_iff, Declaration.allHold_patchPlanRequirements_iff]
  · rintro schema - ⟨other, otherChoice, table, accepted⟩ name
    exact TableSchema.offers_iff_of_ofDeclaration accepted name

/-- A table of notes with titles. -/
def titledNotes : Declaration where
  name := "Note"
  attributes := [⟨"table", .text "notes"⟩, ⟨"id", .text "id"⟩]
  fields := [{ name := "id" }, { name := "title" }]

/-- A patch of the titles of notes. -/
def titlePatch : Declaration where
  name := "NotePatch"
  attributes :=
    [⟨"table_name", .text "notes"⟩, ⟨"table", .text "app.Note"⟩, ⟨"id", .text "id"⟩]
  fields := [{ name := "title" }]

/-- The patch of titles is well-formed, for notes offer their titles. -/
theorem isWellFormedPatch_titlePatch :
    ∃ schema : TableSchema,
      (∃ (other : Workspace) (otherChoice : BackendChoice) (table : Declaration),
          (TableSchema.ofDeclaration other otherChoice table).outcome = .ok schema) ∧
        schema.backend.isSome = true ∧
        titlePatch.IsWellFormedPatch .standard
          (titlePatch.firstBackendChoice (some schema) .configured) (some schema) ∧
          ∀ name,
            schema.Offers name ↔
              ∃ field ∈ schema.fields, field.name = name ∧ field.isIdentifier = false := by
  have declared :
      ∃ schema,
        (TableSchema.ofDeclaration .standard .configured titledNotes).outcome = .ok schema ∧
          schema.backend.isSome = true ∧
          ∃ plan,
            (ofDeclaration .standard .configured (some schema) titlePatch >>= fun patch =>
              patch.compile .sqlite).outcome = .ok plan :=
    ⟨_, rfl, rfl, _, rfl⟩
  rcases declared with ⟨schema, accepted, isNamed, compiled⟩
  rcases outcome_compile_iff .standard .configured (some schema) titlePatch fun _ => .sqlite with
    ⟨decided, -, chosen, offers⟩
  have isDeclared :
      ∃ (other : Workspace) (otherChoice : BackendChoice) (table : Declaration),
        (TableSchema.ofDeclaration other otherChoice table).outcome = .ok schema :=
    ⟨.standard, .configured, titledNotes, accepted⟩
  have isWellFormed := decided.1 compiled
  rw [chosen fun other isSchema => Option.mem_some.1 isSchema ▸ isNamed] at isWellFormed
  exact ⟨schema, isDeclared, isNamed, isWellFormed, offers schema rfl isDeclared⟩

/-- Notes with titles, as a schema that names no backend. -/
def unboundNotes : TableSchema where
  entity := "Note"
  table := "notes"
  identifier := { name := "id", type := .null, column := "id", isIdentifier := true }
  fields :=
    [{ name := "id", type := .null, column := "id", isIdentifier := true },
      { name := "title", type := .null, column := "title" }]

/--
A patch of notes that name no backend is accepted with the configured backend, though the first
choice that is made, the caller's, is of a backend that there is not.
-/
theorem not_outcome_compile_iff_firstBackendChoice :
    ¬ ((∃ plan,
          (ofDeclaration .standard (.registered "oracle") (some unboundNotes) titlePatch >>=
            fun schema => schema.compile .sqlite).outcome = .ok plan) ↔
        titlePatch.IsWellFormedPatch .standard
          (titlePatch.firstBackendChoice (some unboundNotes) (.registered "oracle"))
          (some unboundNotes)) := by
  intro decided
  have isWellFormed := decided.1 ⟨_, rfl⟩
  have isRegistered : (Workspace.standard.registry.find? "oracle").isSome = true :=
    isWellFormed.backend "oracle" rfl
  exact absurd isRegistered (by decide)

end PatchSchema

end SqlMapping
