import SqlMapping.Entity.Row
import SqlMapping.Proofs.Statement.Insertion

/-!
# Defined table classes

Table classes come from definitions, and a class may extend one that was defined before, perhaps
with other settings and other backends.

The main statement says that whatever statements such a class has, its own or inherited, were
generated from one schema by the backend that is kept with them.
-/

namespace SqlMapping

/-- The statements were generated from a schema by the backend that is kept with them. -/
def CompiledTable.IsGenerated (compiled : CompiledTable) : Prop :=
  ∃ schema : TableSchema, (schema.compile compiled.backend).outcome = .ok compiled.plan

namespace TableClass

/-- A class that was defined, perhaps by extending a class that was defined before. -/
inductive IsDefined : TableClass → Prop where
  | root
      {workspace : Workspace}
      {definition : ClassDefinition}
      {table : TableClass}
      (defined : (define workspace none definition).outcome = .ok table) :
      IsDefined table
  | extending
      {workspace : Workspace}
      {definition : ClassDefinition}
      {base table : TableClass}
      (isBase : IsDefined base)
      (defined : (define workspace (some base) definition).outcome = .ok table) :
      IsDefined table

/-- Every layer that has statements has generated ones. -/
def HasGenerated (layers : List ClassLayer) : Prop :=
  ∀ layer ∈ layers, ∀ compiled : CompiledTable,
    layer.compiled = some compiled → compiled.IsGenerated

/-- Compiling a class gives generated statements to its own layer and changes no other. -/
theorem exists_generated_of_compile
    {workspace : Workspace}
    {attributes : List Attribute}
    {table result : TableClass}
    (defined : (table.compile workspace attributes).outcome = .ok result) :
    ∃ compiled : CompiledTable,
      compiled.IsGenerated ∧
        result.own.compiled = some compiled ∧ result.extended = table.extended := by
  rw [compile, Report.bind_outcome_eq_ok_iff] at defined
  rcases defined with ⟨plan, planned, defined⟩
  rw [compileTable, Report.bind_outcome_eq_ok_iff] at planned
  rcases planned with ⟨schema, -, planned⟩
  rw [Report.bind_outcome_eq_ok_iff] at planned
  rcases planned with ⟨backend, resolved, generated⟩
  rw [Report.bind_outcome_eq_ok_iff] at defined
  rcases defined with ⟨kept, keptResolved, defined⟩
  -- Both lookups are made under the name of the backend that checked the declaration.
  have same : kept = backend := by
    rw [Report.outcome_ofExcept] at resolved keptResolved
    rw [TableSchema.schema_of_compile generated, resolved] at keptResolved
    exact (Except.ok.inj keptResolved).symm
  rw [Report.bind_outcome_eq_ok_iff] at defined
  rcases defined with ⟨-, -, built⟩
  cases built
  exact ⟨⟨plan, kept⟩, ⟨schema, same ▸ generated⟩, rfl, rfl⟩

/-- What a class with statements of its own was compiled from. -/
theorem exists_attributes_of_define
    {workspace : Workspace}
    {base : Option TableClass}
    {definition : ClassDefinition}
    {table : TableClass}
    {compiled : CompiledTable}
    (defined : (define workspace base definition).outcome = .ok table)
    (isCompiled : table.own.compiled = some compiled) :
    ∃ attributes : List Attribute,
      definition.marker = .options attributes ∧
        (compileTable workspace .configured
            (ClassDefinition.declaration definition.name attributes
              (ofDefinition base definition).fields)).outcome =
          .ok compiled.plan ∧
        (ofDefinition base definition).checkFree
            ((generatedMembers (ofDefinition base definition).own compiled.plan).map Prod.fst) =
          .ok () ∧
        table =
          { ofDefinition base definition with
            own :=
              { (ofDefinition base definition).own with
                members :=
                  Entries.putAll (ofDefinition base definition).own.members
                    (generatedMembers (ofDefinition base definition).own compiled.plan)
                compiled := some compiled } } := by
  rw [define] at defined
  cases marker : definition.marker with
  | absent =>
      rw [marker] at defined
      cases defined
      cases isCompiled
  | unusable value =>
      rw [marker] at defined
      cases defined
  | options attributes =>
      rw [marker] at defined
      dsimp only at defined
      rw [compile, Report.bind_outcome_eq_ok_iff] at defined
      rcases defined with ⟨plan, planned, defined⟩
      rw [Report.bind_outcome_eq_ok_iff] at defined
      rcases defined with ⟨backend, -, defined⟩
      rw [Report.bind_outcome_eq_ok_iff] at defined
      rcases defined with ⟨⟨⟩, free, built⟩
      cases built
      cases isCompiled
      exact ⟨attributes, rfl, planned, free, rfl⟩

/-- Making a class gives the class that its definition has, where it gives one. -/
theorem define_of_create
    {workspace : Workspace}
    {base : Option TableClass}
    {definition : ClassDefinition}
    {table : TableClass}
    (created : (create workspace base definition).outcome = .ok (.ok table)) :
    (define workspace base definition).outcome = .ok table := by
  rw [create] at created
  split at created
  · rename_i fault planned
    rw [Report.outcome_map, planned] at created
    cases created
  · rw [Report.outcome_map, Outcome.map_eq_ok_iff] at created
    rcases created with ⟨defined, isDefined, ⟨⟩⟩
    exact isDefined
  · rw [Report.outcome_map, Outcome.map_eq_ok_iff] at created
    rcases created with ⟨defined, isDefined, ⟨⟩⟩
    exact isDefined

/-- Defining a class keeps the layers that it extends and generates the statements of its own. -/
theorem hasGenerated_of_define
    {workspace : Workspace}
    {base : Option TableClass}
    {definition : ClassDefinition}
    {table : TableClass}
    (inherited : HasGenerated ((base.map layers).getD []))
    (defined : (define workspace base definition).outcome = .ok table) :
    HasGenerated table.layers := by
  rw [define] at defined
  cases marker : definition.marker with
  | absent =>
      rw [marker] at defined
      cases defined
      intro layer member compiled isCompiled
      rcases List.mem_cons.1 member with rfl | isInherited
      · cases isCompiled
      · exact inherited layer isInherited compiled isCompiled
  | unusable value =>
      rw [marker] at defined
      cases defined
  | options attributes =>
      rw [marker] at defined
      rcases exists_generated_of_compile defined with ⟨own, generated, isOwn, same⟩
      intro layer member compiled isCompiled
      rcases List.mem_cons.1 member with rfl | isInherited
      · rw [isOwn] at isCompiled
        rw [← Option.some.inj isCompiled]
        exact generated
      · rw [same] at isInherited
        exact inherited layer isInherited compiled isCompiled

theorem IsDefined.hasGenerated
    {table : TableClass}
    (isDefined : table.IsDefined) :
    HasGenerated table.layers := by
  induction isDefined with
  | root defined =>
      refine hasGenerated_of_define ?_ defined
      intro layer member
      cases member
  | extending isBase defined inductionHypothesis =>
      refine hasGenerated_of_define ?_ defined
      exact inductionHypothesis

/-- The statements of a defined class were generated by the backend that is kept with them. -/
theorem IsDefined.isGenerated
    {table : TableClass}
    {compiled : CompiledTable}
    (isDefined : table.IsDefined)
    (has : table.statements = .ok compiled) :
    compiled.IsGenerated := by
  rw [statements, compiledOr] at has
  cases found : table.compiled? with
  | none =>
      rw [found] at has
      cases has
  | some other =>
      rw [found] at has
      rw [← Except.ok.inj has]
      rcases List.exists_of_findSome?_eq_some found with ⟨layer, member, isCompiled⟩
      exact isDefined.hasGenerated layer member other isCompiled

/-- The class of a definition that is accepted. -/
def ofAccepted
    (definition : ClassDefinition)
    (accepted : (define .standard none definition).outcome.isOk = true) :
    TableClass :=
  Outcome.value _ accepted

theorem define_ofAccepted
    (definition : ClassDefinition)
    (accepted : (define .standard none definition).outcome.isOk = true) :
    (define .standard none definition).outcome = .ok (ofAccepted definition accepted) :=
  Outcome.eq_ok_value _ accepted

theorem isDefined_ofAccepted
    (definition : ClassDefinition)
    (accepted : (define .standard none definition).outcome.isOk = true) :
    (ofAccepted definition accepted).IsDefined :=
  .root (define_ofAccepted definition accepted)

end TableClass

/-! ## Notes -/

/-- Notes of some fields in a table for the backend of some key. -/
def notesOf (key : String) (options : List Attribute) (fields : List ClassField) :
    ClassDefinition where
  name := "Note"
  path := "app.Note"
  moduleName := "app"
  marker :=
    .options
      ([⟨"backend", .text key⟩, ⟨"table", .text "notes"⟩, ⟨"id", .text "id"⟩] ++ options)
  fields := fields

/-- The field of the number of a note. -/
def numberOfNote : ClassField where
  field := { name := "id", type := .integer }

/-- The field of the body of a note. -/
def bodyOfNote : ClassField where
  field := { name := "body", type := .text }

end SqlMapping
