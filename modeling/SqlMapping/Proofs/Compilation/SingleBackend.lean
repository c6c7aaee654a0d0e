import SqlMapping.Compilation
import SqlMapping.Proofs.Schema.Table
import SqlMapping.Proofs.Statement.Alike

/-!
# Compiling with one backend

A declaration names a backend and is checked with it.  Its statements, however, are generated
by the backend that is registered under the name which the first one gives itself, and that may
be another one.  A compilation with one backend throughout serves as the measure.

The main statement says that an accepted declaration is compiled like that exactly if the
backend under that name generates the same from the checked schema.
-/

namespace SqlMapping

/-- A declaration without the option that names its backend. -/
def Declaration.withoutBackend (declaration : Declaration) : Declaration :=
  { declaration with
    attributes := declaration.attributes.filter fun option => option.key != "backend" }

/-- Check a declaration for a backend and let the same backend generate its statements. -/
def compileFor (workspace : Workspace) (backend : Backend) (declaration : Declaration) :
    Report TablePlan := do
  let schema ← TableSchema.ofDeclaration workspace (.given backend) declaration.withoutBackend
  schema.compile backend

/-- The choice that an option makes, or else the one of the caller. -/
def BackendChoice.overriddenBy (choice : BackendChoice) : Option String → BackendChoice
  | some key => .registered key
  | none => choice

/-- A declaration that a backend accepts and whose backend option is as given. -/
structure Declaration.IsAcceptedBy
    (workspace : Workspace)
    (backend : Backend)
    (key? : Option String)
    (declaration : Declaration) :
    Prop where
  names :
    ∃ options : Options,
      OptionGrammar.table.collect declaration.name declaration.attributes = .ok options ∧
        options.text? "backend" = key?
  checks :
    ∃ schema : TableSchema,
      (TableSchema.ofDeclaration workspace (.given backend) declaration.withoutBackend).outcome =
        .ok schema

namespace TableSchema

variable {workspace : Workspace} {choice : BackendChoice} {backend : Backend}
  {declaration : Declaration} {options : Options}

theorem chosenBackend_eq (options : Options) (choice : BackendChoice) :
    chosenBackend options choice = choice.overriddenBy (options.text? "backend") := by
  rw [chosenBackend]
  cases options.text? "backend" with
  | none => rfl
  | some key => rfl

/-- A declaration is checked as if its backend were given as such. -/
theorem ofDeclaration_withoutBackend
    (collected :
      OptionGrammar.table.collect declaration.name declaration.attributes = .ok options)
    (resolved : workspace.resolve (chosenBackend options choice) = .ok backend) :
    ofDeclaration workspace choice declaration =
      ofDeclaration workspace (.given backend) declaration.withoutBackend := by
  let others : Options := options.filter fun entry => entry.1 != "backend"
  have collectedOthers :
      OptionGrammar.table.collect declaration.withoutBackend.name
          declaration.withoutBackend.attributes =
        .ok others :=
    OptionGrammar.collect_filter (fun key => key != "backend") collected
  have kept
      {key : String}
      (other : (key != "backend") = true) :
      others.lookup key = options.lookup key :=
    Options.lookup_filter (fun key => key != "backend") options other
  have dropped : others.lookup "backend" = none :=
    Options.lookup_filter_of_dropped (fun key => key != "backend") options rfl
  have table : others.text? "table" = options.text? "table" := by
    rw [Options.text?, kept rfl, Options.text?]
  have identifier : others.text? "id" = options.text? "id" := by
    rw [Options.text?, kept rfl, Options.text?]
  have insertable : others.insertable? "insertable" = options.insertable? "insertable" := by
    rw [Options.insertable?, kept rfl, Options.insertable?]
  have deletable : others.flag "deletable" = options.flag "deletable" := by
    rw [Options.flag, kept rfl, Options.flag]
  have chosen : chosenBackend others (.given backend) = .given backend := by
    rw [chosenBackend, Options.text?, dropped]
  have resolvedAgain : workspace.resolve (.given backend) = .ok backend := rfl
  have ofOk {α β : Type} (value : α) (next : α → Report β) :
      (Report.ofExcept (.ok value) >>= next) = next value := by
    rw [Report.ofExcept, Report.bind_ok, List.nil_append]
  rw [ofDeclaration, ofDeclaration, collected, collectedOthers]
  simp only [ofOk, resolved, chosen, resolvedAgain, required, table, identifier, insertable,
    deletable]
  rfl

/-- The schema carries the name of the backend that it was checked for. -/
theorem backend_of_ofDeclaration
    {schema : TableSchema}
    (accepted :
      (ofDeclaration workspace (.given backend) declaration.withoutBackend).outcome =
        .ok schema) :
    schema.backend = some backend.name := by
  obtain ⟨options, chosen, table, identifierName, fields, identifier, collected, resolved, -, -, -,
    -, -, -, -, rfl⟩ := ofDeclaration_eq_ok_iff.1 accepted
  have noOption : options.lookup "backend" = none :=
    OptionGrammar.lookup_eq_none_of_collect collected fun option member =>
      (List.mem_filter.1 member).2
  rw [chosenBackend, Options.text?, noOption] at resolved
  cases resolved
  rfl

end TableSchema

/-- Two sequences after the same success agree if what follows does. -/
theorem Report.bind_eq_bind_iff
    {α β : Type}
    {report : Report α}
    {value : α}
    (success : report.outcome = .ok value)
    (left right : α → Report β) :
    report >>= left = report >>= right ↔ left value = right value := by
  rcases report with ⟨notices, outcome⟩
  cases success
  rw [Report.bind_ok, Report.bind_ok]
  constructor
  · intro equal
    have sameNotices := List.append_cancel_left (congrArg Report.notices equal)
    have sameOutcome := congrArg Report.outcome equal
    dsimp only at sameNotices sameOutcome
    cases leftReport : left value with
    | mk leftNotices leftOutcome =>
        cases rightReport : right value with
        | mk rightNotices rightOutcome =>
            rw [leftReport, rightReport] at sameNotices sameOutcome
            cases sameNotices
            cases sameOutcome
            rfl
  · intro equal
    rw [equal]

/--
An accepted declaration is compiled with one backend throughout exactly if the backend under its
name generates the same from the checked schema.
-/
theorem compileTable_eq_compileFor_iff_of_checked
    {workspace : Workspace}
    {choice : BackendChoice}
    {backend : Backend}
    {declaration : Declaration}
    {options : Options}
    {schema : TableSchema}
    (collected :
      OptionGrammar.table.collect declaration.name declaration.attributes = .ok options)
    (resolved :
      workspace.resolve (choice.overriddenBy (options.text? "backend")) = .ok backend)
    (checked :
      (TableSchema.ofDeclaration workspace (.given backend) declaration.withoutBackend).outcome =
        .ok schema) :
    compileTable workspace choice declaration = compileFor workspace backend declaration ↔
      (Report.ofExcept (workspace.registry.create backend.name) >>= schema.compile) =
        schema.compile backend := by
  rw [← TableSchema.chosenBackend_eq] at resolved
  rw [compileTable, compileFor, TableSchema.ofDeclaration_withoutBackend collected resolved,
    Report.bind_eq_bind_iff checked, TableSchema.backend_of_ofDeclaration checked]
  rfl

end SqlMapping
