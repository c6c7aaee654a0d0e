import SqlMapping.Entity.Insertion
import SqlMapping.Proofs.Database.UnitOfWork
import SqlMapping.Proofs.Entity.Definitions

/-!
# Atomicity of inserts

Without returned columns, the statements of an insert are one unit of work.  The row that they
generate is read into an entity after the work has been confirmed, so that a row which does not
fit the entity is a failure of an insert that has taken place.

The main statement says exactly which failed inserts leave nothing behind.
-/

namespace SqlMapping

/-! ## Statements that confirm -/

/-- Neither of the texts that a backend contributes as whole statements confirms a transaction. -/
structure Backend.ConfirmsNothing (backend : Backend) : Prop where
  begins : backend.beginSql ≠ "COMMIT"
  asks : backend.lastInsertId ≠ some "COMMIT"

/-- The backends that are always registered confirm nothing by these texts. -/
theorem Backend.confirmsNothing_of_standard :
    ∀ entry ∈ Registry.standard.entries, entry.2.ConfirmsNothing := by
  refine List.forall_mem_cons.2 ⟨⟨by decide, by decide⟩, ?_⟩
  refine List.forall_mem_cons.2 ⟨⟨by decide, by decide⟩, ?_⟩
  refine List.forall_mem_cons.2 ⟨⟨by decide, by decide⟩, ?_⟩
  intro entry member
  cases member

/-- No statement of an insert in several statements confirms the transaction. -/
theorem TableSchema.commit_not_mem_statements
    {schema : TableSchema}
    {backend : Backend}
    {plan : InsertPlan}
    (noReturning : backend.supportsReturning = false)
    (confirmsNothing : backend.ConfirmsNothing)
    (planned : schema.insertPlan backend = .ok plan) :
    "COMMIT" ∉ plan.statements.map Statement.sql := by
  intro member
  rcases List.mem_map.1 member with ⟨statement, isStatement, isCommit⟩
  rcases TableSchema.sql_of_mem_statements noReturning planned isStatement with
    isInsert | isSelection | isQuery
  · rw [isCommit] at isInsert
    exact absurd isInsert (by decide)
  · rw [isCommit] at isSelection
    exact absurd isSelection (by decide)
  · rw [isCommit] at isQuery
    exact confirmsNothing.asks isQuery

namespace InsertRow

variable {row : InsertRow} {compiled : CompiledTable} {plan : InsertPlan}

/-! ## The unit of work of an insert -/

theorem executes_firstColumn
    {statements : List String}
    (sql : String)
    (cursor : Cursor) :
    Database.Executes statements (firstColumn sql cursor) := by
  apply Database.Emits.bind (Database.executes_fetchOne cursor (some sql))
  rintro ⟨columns, rest⟩
  cases columns with
  | none => exact Database.emits_throw _
  | some columns =>
      cases columns with
      | nil => exact Database.emits_throw _
      | cons value others => exact Database.emits_pure _

theorem executes_fetchIdentifier
    {statements : List String}
    (name : String)
    (cursor : Cursor)
    {query : Option Statement}
    (isStatement : ∀ statement ∈ query, statement.sql ∈ statements) :
    Database.Executes statements (fetchIdentifier name cursor query) := by
  cases query with
  | none => exact Database.emits_pure _
  | some statement =>
      refine Database.Emits.bind ?_ fun opened => ?_
      · exact Database.executes_run cursor (isStatement statement rfl) []
      · exact (executes_firstColumn statement.sql opened).bind fun value => Database.emits_pure _

theorem executes_fetchDefaults
    {statements : List String}
    (identifier : Value)
    (cursor : Cursor)
    {query : Option Statement}
    (isStatement : ∀ statement ∈ query, statement.sql ∈ statements) :
    Database.Executes statements (fetchDefaults identifier cursor query) := by
  cases query with
  | none => exact Database.emits_pure _
  | some statement =>
      refine Database.Emits.bind (Database.emits_require _) fun arguments => ?_
      refine Database.Emits.bind ?_ fun opened => ?_
      · exact Database.executes_run cursor (isStatement statement rfl) arguments
      · exact
          (Database.executes_fetchRow opened statement.sql).bind fun generated =>
            Database.emits_pure _

/-- Inserting and querying executes the statements of the plan and nothing else. -/
theorem executes_insertThenFetch
    (row : InsertRow)
    (plan : InsertPlan)
    (identifierName : String)
    (dialect : Option String) :
    Database.Executes (plan.statements.map Statement.sql)
      (row.insertThenFetch plan identifierName dialect) := by
  have isStatement
      {statement : Statement}
      (member : statement ∈ plan.statements) :
      statement.sql ∈ plan.statements.map Statement.sql :=
    List.mem_map_of_mem member
  refine Database.Executes.withCursor (fun cursor => ?_) dialect
  refine Database.Emits.bind (Database.emits_require _) fun arguments => ?_
  refine Database.Emits.bind ?_ fun opened => ?_
  · exact Database.executes_run cursor (isStatement List.mem_cons_self) arguments
  refine Database.Emits.bind ?_ fun generated => ?_
  · refine executes_fetchIdentifier identifierName opened fun statement isQuery => isStatement ?_
    refine List.mem_cons_of_mem _ (List.mem_append_left _ ?_)
    rw [Option.mem_toList]
    exact isQuery
  refine Database.Emits.bind ?_ fun others => Database.emits_pure _
  refine executes_fetchDefaults _ opened fun statement isQuery => isStatement ?_
  refine List.mem_cons_of_mem _ (List.mem_append_right _ ?_)
  rw [Option.mem_toList]
  exact isQuery

/-- What the database generates for a row is generated in one unit of work. -/
theorem settles_generate
    (row : InsertRow)
    (isGenerated : compiled.IsGenerated)
    (isInsert : compiled.plan.insert = some plan)
    (noReturning : compiled.backend.supportsReturning = false)
    (confirmsNothing : compiled.backend.ConfirmsNothing)
    {connection : Connection}
    (idle : connection.IsIdle) :
    connection.Settles ((row.generate compiled plan).on connection) := by
  rcases isGenerated with ⟨schema, generated⟩
  have planned := TableSchema.insertPlan_of_compile generated isInsert
  have several : plan.returning = false := by
    rw [TableSchema.eq_of_insertPlan noReturning planned]
  rw [generate]
  refine Database.settles_acquire idle fun endpoint connection idle => ?_
  rw [several, if_neg Bool.false_ne_true]
  refine Database.settles_unitOfWork ?_ confirmsNothing.begins idle
  exact
    (row.executes_insertThenFetch plan _ _).confirmsNothing
      (TableSchema.commit_not_mem_statements noReturning confirmsNothing planned)

/-! ## The whole insert -/

/-- An insert generates, and then reads what it generated together with the values of the row. -/
theorem on_insert
    (has : row.table.statements = .ok compiled)
    (isInsert : compiled.plan.insert = some plan)
    (connection : Connection) :
    row.insert.on connection =
      match (row.generate compiled plan).on connection with
      | (.error failure, after) => (.error failure, after)
      | (.ok generated, after) =>
        ((Database.decodeNamed row.table.decoder plan.statement.sql
            (Entries.putAll row.fields generated)).map fun entity => ⟨entity, generated⟩,
          after) := by
  rw [insert, has, Database.on_bind]
  dsimp only [Database.require, Database.on_ofFunction]
  rw [isInsert]
  dsimp only
  rw [Database.on_bind]
  rcases (row.generate compiled plan).on connection with ⟨result, after⟩
  cases result with
  | error failure => rfl
  | ok generated =>
      dsimp only
      rw [Database.on_bind]
      dsimp only [Database.on_ofFunction]
      cases Database.decodeNamed row.table.decoder plan.statement.sql
          (Entries.putAll row.fields generated) with
      | error failure => rfl
      | ok entity => rfl

/--
Without returned columns and outside a transaction, every failure of an insert leaves nothing
committed exactly if whatever the database generates for the row can be read into the entity.
-/
theorem not_confirms_of_insert_error_iff
    (row : InsertRow)
    (isDefined : row.table.IsDefined)
    (has : row.table.statements = .ok compiled)
    (isInsert : compiled.plan.insert = some plan)
    (noReturning : compiled.backend.supportsReturning = false)
    (confirmsNothing : compiled.backend.ConfirmsNothing)
    {connection : Connection}
    (idle : connection.IsIdle) :
    (∀ (failure : Failure) (after : Connection),
        row.insert.on connection = (.error failure, after) → ¬ connection.Confirms after) ↔
      ∀ (generated : List (String × Value)) (after : Connection),
        (row.generate compiled plan).on connection = (.ok generated, after) →
          ∃ entity : Entity,
            row.table.decoder (Entries.putAll row.fields generated) = .ok entity := by
  have settled :=
    row.settles_generate (isDefined.isGenerated has) isInsert noReturning confirmsNothing idle
  rw [on_insert has isInsert]
  cases outcome : (row.generate compiled plan).on connection with
  | mk result after =>
      rw [outcome] at settled
      cases result with
      | error failure =>
          constructor
          · intro clean generated other equal
            cases equal
          · rintro clean _ _ ⟨⟩
            exact Connection.ConfirmsNothing.not_confirms settled
      | ok generated =>
          -- The work is confirmed by now, so that reading is all that can still fail.
          dsimp only
          rw [Database.decodeNamed]
          cases read : row.table.decoder (Entries.putAll row.fields generated) with
          | ok entity =>
              constructor
              · rintro clean _ _ ⟨⟩
                exact ⟨entity, read⟩
              · intro readable failure other equal
                cases equal
          | error fault =>
              constructor
              · intro clean
                exact absurd settled (clean _ after rfl)
              · intro readable
                rcases readable generated after rfl with ⟨entity, isRead⟩
                rw [read] at isRead
                cases isRead

/-- A table of notes whose numbers the database generates. -/
def noteDefinition : ClassDefinition :=
  notesOf "sqlite" [⟨"insertable", .bool true⟩]
    [{ numberOfNote with attributes := [⟨"default", .bool true⟩] }, bodyOfNote]

/-- The class of notes. -/
def noteClass : TableClass := .ofAccepted noteDefinition (by decide +kernel)

/-- The first note. -/
def firstNote : InsertRow where
  table := noteClass
  model := { name := "InsertNote", fields := [{ name := "body", type := .text }] }
  fields := [("body", .text "first")]

/-- A connection that answers the query for the generated number. -/
def connectionWith (answer : Reply) : Connection where
  replies := [{}, answer]

/-- The query for the number is answered with a text. -/
def unreadableNumber : Reply where
  columns := ["last_insert_rowid()"]
  rows := [[.text "abc"]]

/-- The connection is lost before the number is fetched. -/
def lostNumber : Reply where
  fetchFault := some (⟨.ordinary, "OSError", "lost", "lost"⟩, 0)

theorem isDefined_noteClass : noteClass.IsDefined := TableClass.isDefined_ofAccepted _ _

theorem isIdle_connectionWith (answer : Reply) : (connectionWith answer).IsIdle := by
  intro isOpen
  cases isOpen

/-- An insert whose query for the generated number fails has committed nothing. -/
theorem not_confirms_of_lost_number :
    ∃ (compiled : CompiledTable) (plan : InsertPlan) (failure : Failure) (after : Connection),
      (firstNote.table.IsDefined ∧
          firstNote.table.statements = .ok compiled ∧
          compiled.plan.insert = some plan ∧
          compiled.backend.supportsReturning = false ∧
          compiled.backend.ConfirmsNothing ∧
          (connectionWith lostNumber).IsIdle) ∧
        firstNote.insert.on (connectionWith lostNumber) = (.error failure, after) ∧
          ¬ (connectionWith lostNumber).Confirms after := by
  have plain : Backend.sqlite.ConfirmsNothing :=
    Backend.confirmsNothing_of_standard ("sqlite", .sqlite) (by simp [Registry.standard])
  have idle := isIdle_connectionWith lostNumber
  refine ⟨_, _, _, _, ⟨isDefined_noteClass, rfl, rfl, rfl, plain, idle⟩, rfl, ?_⟩
  refine
    (firstNote.not_confirms_of_insert_error_iff isDefined_noteClass rfl rfl rfl plain idle).2 ?_
      _ _ rfl
  intro generated after equal
  cases equal

/-- An insert whose generated number cannot be read has committed the note when it fails. -/
theorem confirms_of_unreadable_number :
    ∃ (compiled : CompiledTable) (plan : InsertPlan) (failure : Failure) (after : Connection),
      (firstNote.table.IsDefined ∧
          firstNote.table.statements = .ok compiled ∧
          compiled.plan.insert = some plan ∧
          compiled.backend.supportsReturning = false ∧
          compiled.backend.ConfirmsNothing ∧
          (connectionWith unreadableNumber).IsIdle) ∧
        firstNote.insert.on (connectionWith unreadableNumber) = (.error failure, after) ∧
          (connectionWith unreadableNumber).Confirms after := by
  have plain : Backend.sqlite.ConfirmsNothing :=
    Backend.confirmsNothing_of_standard ("sqlite", .sqlite) (by simp [Registry.standard])
  have idle := isIdle_connectionWith unreadableNumber
  refine ⟨_, _, _, _, ⟨isDefined_noteClass, rfl, rfl, rfl, plain, idle⟩, rfl, ?_⟩
  exact ⟨_, rfl, by decide⟩

end InsertRow

end SqlMapping
