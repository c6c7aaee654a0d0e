import SqlMapping.Proofs.Compilation.Specimens

/-!
# Resolving the backend twice

The backend of a declaration is looked up once by the key that names it and once more by the name
that it gives itself.  A backend that is registered under another key than its name, or not at
all, is replaced by the one under its name.

The main statement says when the replacement goes unnoticed in every declaration.
-/

namespace SqlMapping

/--
The declarations that name a backend in one way are compiled by it throughout exactly if a backend
is registered under its name and renders alike.
-/
theorem compileTable_eq_compileFor_iff
    {workspace : Workspace}
    {choice : BackendChoice}
    {key? : Option String}
    {backend : Backend}
    (proper : key? ≠ some "")
    (resolved : workspace.resolve (choice.overriddenBy key?) = .ok backend) :
    (∀ declaration : Declaration, declaration.IsAcceptedBy workspace backend key? →
        compileTable workspace choice declaration =
          compileFor workspace backend declaration) ↔
      ∃ registered : Backend,
        workspace.registry.find? backend.name = some registered ∧
          registered.RendersAlike backend := by
  -- What an accepted declaration tells is what its schema tells.
  have checkedIff
      {declaration : Declaration}
      {schema : TableSchema}
      (accepted : declaration.IsAcceptedBy workspace backend key?)
      (checked :
        (TableSchema.ofDeclaration workspace (.given backend)
          declaration.withoutBackend).outcome = .ok schema) :
      compileTable workspace choice declaration = compileFor workspace backend declaration ↔
        (Report.ofExcept (workspace.registry.create backend.name) >>= schema.compile) =
          schema.compile backend := by
    rcases accepted.names with ⟨options, collected, rfl⟩
    exact compileTable_eq_compileFor_iff_of_checked collected resolved checked
  constructor
  · intro agree
    have ofReading (table name : String) (isCustom : Bool) (named : table ≠ "") :=
      (checkedIff (isAcceptedBy_readingSpecimen workspace backend proper named name isCustom)
        (ofDeclaration_readingSpecimen workspace backend key? named name isCustom)).1
        (agree _ (isAcceptedBy_readingSpecimen workspace backend proper named name isCustom))
    have ofWriting (count : Nat) :=
      (checkedIff (isAcceptedBy_writingSpecimen workspace backend proper count)
        (ofDeclaration_writingSpecimen workspace backend key? count)).1
        (agree _ (isAcceptedBy_writingSpecimen workspace backend proper count))
    have ofInserting :=
      (checkedIff (isAcceptedBy_insertingSpecimen workspace backend proper)
        (ofDeclaration_insertingSpecimen workspace backend key?)).1
        (agree _ (isAcceptedBy_insertingSpecimen workspace backend proper))
    cases found : workspace.registry.find? backend.name with
    | none =>
        obtain ⟨error, failed⟩ :
            ∃ error, workspace.registry.create backend.name = .error error := by
          rw [Registry.create, found]
          exact ⟨_, rfl⟩
        have plain := ofReading "t" "" false (by decide)
        rw [failed] at plain
        cases congrArg Report.outcome plain
    | some registered =>
        have created : workspace.registry.create backend.name = .ok registered := by
          rw [Registry.create, found]
        refine ⟨registered, rfl, rendersAlike_of_compile_eq ?_ ?_ ?_⟩
        · intro table name isCustom named
          have equal := ofReading table name isCustom named
          rw [created, Report.ofExcept_ok_bind] at equal
          exact congrArg Report.outcome equal
        · intro count
          have equal := ofWriting count
          rw [created, Report.ofExcept_ok_bind] at equal
          exact congrArg Report.outcome equal
        · rw [created, Report.ofExcept_ok_bind] at ofInserting
          exact congrArg Report.outcome ofInserting
  · rintro ⟨registered, found, alike⟩ declaration accepted
    rcases accepted.checks with ⟨schema, checked⟩
    have created : workspace.registry.create backend.name = .ok registered := by
      rw [Registry.create, found]
    rw [checkedIff accepted checked, created, Report.ofExcept_ok_bind,
      TableSchema.compile_eq alike]

theorem compileTable_eq_compileFor_sqlite :
    (some "sqlite" ≠ some "" ∧
        Workspace.standard.resolve (BackendChoice.configured.overriddenBy (some "sqlite")) =
          .ok .sqlite) ∧
      ((∀ declaration : Declaration,
          declaration.IsAcceptedBy .standard .sqlite (some "sqlite") →
            compileTable .standard .configured declaration =
              compileFor .standard .sqlite declaration) ↔
        ∃ registered : Backend,
          Workspace.standard.registry.find? Backend.sqlite.name = some registered ∧
            registered.RendersAlike .sqlite) := by
  have proper : some "sqlite" ≠ some "" := by decide
  have resolved :
      Workspace.standard.resolve (BackendChoice.configured.overriddenBy (some "sqlite")) =
        .ok .sqlite := rfl
  exact ⟨⟨proper, resolved⟩, compileTable_eq_compileFor_iff proper resolved⟩

/-! ## A backend under another key -/

/-- A variant of a backend, with its name but another quote mark. -/
def cockroach : Backend :=
  { Backend.postgres with kindName := "CockroachBackend", quoteMark := "\x60" }

/-- The standard backends and the variant, under a key of its own. -/
def withCockroach : Workspace :=
  { Workspace.standard with registry := Registry.standard.register "cockroach" cockroach }

/-- A table with a reserved name that is declared for the variant. -/
def orderDeclaration : Declaration where
  name := "Order"
  attributes := [⟨"backend", .text "cockroach"⟩, ⟨"table", .text "order"⟩, ⟨"id", .text "id"⟩]
  fields := [{ name := "id" }]

/-- The variant checks the declaration, and the backend of its name quotes the table. -/
theorem compileTable_ne_compileFor_cockroach :
    withCockroach.resolve (BackendChoice.configured.overriddenBy (some "cockroach")) =
        .ok cockroach ∧
      orderDeclaration.IsAcceptedBy withCockroach cockroach (some "cockroach") ∧
        compileTable withCockroach .configured orderDeclaration ≠
          compileFor withCockroach cockroach orderDeclaration := by
  refine ⟨rfl, ⟨⟨_, rfl, rfl⟩, _, rfl⟩, fun equal => ?_⟩
  have table :=
    congrArg (fun report => report.outcome.toOption.map fun plan => plan.all.sql) equal
  revert table
  decide +kernel

end SqlMapping
