import SqlMapping.Entity.Patching
import SqlMapping.Proofs.Database.Streaming
import SqlMapping.Proofs.Entity.Insertion
import SqlMapping.Query.Conditional

/-!
# Failures and release

Every operation on rows, whatever it is made of, releases what it takes of a handle and fails when
a call of it fails.  So does every stream, which may be left at any point by closing it.

The main statement says this of all operations and of all streams, on every handle and for every
way in which its driver may raise ordinary faults.
-/

namespace SqlMapping

/-- An operation on rows, by what it gives. -/
inductive RowOperation : Type → Type 1 where
  | get (table : TableClass) (identifier : Value) : RowOperation Entity
  | all (table : TableClass) (batch : Int) : RowOperation (List Entity)
  | lookup (table : TableClass) (getter : Getter) (argument : Value) :
    RowOperation TableClass.Found
  | update (entity : Entity) : RowOperation Unit
  | delete (entity : Entity) : RowOperation Unit
  | deleteRow (table : TableClass) (identifier : Value) : RowOperation Unit
  | set (entity : Entity) (setter : Setter) (type : TypeRef) (value : Value) : RowOperation Entity
  | insert (row : InsertRow) : RowOperation InsertRow.Inserted
  | patch (entity : Entity) (row : PatchRow) (patchName : String) (compiled : CompiledPatch) :
    RowOperation (Assigned Entity)
  | writePatch (row : PatchRow) (compiled : CompiledPatch) (identifier : Value) : RowOperation Unit
  | reload (entity : Entity) : RowOperation (Assigned Entity)
  | fetchAll (query : Query.ConditionalQuery) (parameters : Query.Parameters) :
    RowOperation (List Value)
  | fetchOne (query : Query.ConditionalQuery) (parameters : Query.Parameters) : RowOperation Value
  | fetchOptional (query : Query.ConditionalQuery) (parameters : Query.Parameters) :
    RowOperation (Option Value)

namespace RowOperation

/-- Use the statement that a query selects for the parameters of a call. -/
def selecting
    {α : Type}
    (query : Query.ConditionalQuery)
    (member : String)
    (parameters : Query.Parameters)
    (fetch : Decoder Value → String → List Value → Option String → Database α) :
    Database α := do
  let selected ← Database.require
    ((query.call member ["self", "handle"] parameters).mapError .call)
  fetch query.output.decode selected.sql selected.arguments (some query.backend.name)

/-- The action of an operation. -/
def action {α : Type} : RowOperation α → Database α
  | get table identifier => table.get identifier
  | all table batch => table.all batch
  | lookup table getter argument => table.lookup getter argument
  | update entity => entity.update
  | delete entity => entity.delete
  | deleteRow table identifier => table.deleteRow identifier
  | set entity setter type value => entity.set setter type value
  | insert row => row.insert
  | patch entity row patchName compiled => entity.patch row patchName compiled
  | writePatch row compiled identifier => row.write compiled identifier
  | reload entity => entity.reload
  | fetchAll query parameters => selecting query "fetch_all" parameters Database.fetchAll
  | fetchOne query parameters => selecting query "fetch_one" parameters Database.fetchOne
  | fetchOptional query parameters =>
    selecting query "fetch_optional" parameters Database.fetchOptional

end RowOperation

open Database (Takes takes_require takes_pure takes_throw)

variable {held : Holdings}

namespace Database

/-- What is done with a value that is known without any call. -/
theorem takes_requiring
    {α β : Type}
    {result : Except Failure α}
    {next : α → Database β}
    {gives : β → Prop}
    (takes : ∀ value, Takes held held (next value) gives) :
    Takes held held (require result >>= next) gives := by
  have known : Takes held held (require result) fun _ => True :=
    takes_require held fun _ _ => trivial
  exact known.bind fun value _ => takes value

theorem Takes.mapped
    {α β : Type}
    {action : Database α}
    {left : Holdings}
    {gives : α → Prop}
    (takes : Takes held left action gives)
    (function : α → β) :
    Takes held left (function <$> action) fun _ => True := by
  rw [← bind_pure_comp]
  exact takes.map

end Database

open Database (takes_requiring)

/-! ## Operations on classes and entities -/

namespace TableClass

theorem takes_get (table : TableClass) (identifier : Value) :
    Takes .empty .empty (table.get identifier) fun _ => True := by
  apply takes_requiring
  intro compiled
  apply takes_requiring
  intro arguments
  exact Database.takes_fetchOnlyRow _ _ _ _

theorem takes_all (table : TableClass) (batch : Int) :
    Takes .empty .empty (table.all batch) fun _ => True := by
  have starts : Takes .empty .empty (Database.require table.streamAll) fun stream =>
      stream.state = .waiting := by
    apply takes_require
    intro stream streams
    rw [streamAll] at streams
    cases has : table.statements with
    | error failure =>
        rw [has] at streams
        cases streams
    | ok compiled =>
        rw [has] at streams
        cases streams
        rfl
  exact starts.bind fun stream waiting => stream.takes_collect batch waiting

theorem takes_lookup (table : TableClass) (getter : Getter) (argument : Value) :
    Takes .empty .empty (table.lookup getter argument) fun _ => True := by
  apply takes_requiring
  intro checked
  apply takes_requiring
  intro compiled
  apply takes_requiring
  intro member
  apply takes_requiring
  intro arguments
  dsimp only
  cases getter.kind with
  | one => exact (Database.takes_fetchOnlyRow _ _ _ _).mapped _
  | many => exact (Database.takes_fetchAll _ _ _ _).mapped _
  | anyOf => exact (Database.takes_fetchAll _ _ _ _).mapped _
  | optional =>
      apply (Database.takes_fetchOptional _ _ _ _).bind
      intro found _
      cases found with
      | none => exact takes_pure .empty trivial
      | some entity => exact takes_pure .empty trivial

theorem takes_deleteRow (table : TableClass) (identifier : Value) :
    Takes .empty .empty (table.deleteRow identifier) fun _ => True := by
  apply takes_requiring
  intro compiled
  cases compiled.plan.delete with
  | none => exact takes_throw .empty _
  | some statement =>
      apply takes_requiring
      intro arguments
      apply (Database.takes_executeStatement _ _ _).bind
      intro affected _
      split_ifs
      · exact takes_throw .empty _
      · exact takes_pure .empty trivial

end TableClass

namespace Entity

theorem takes_update (entity : Entity) :
    Takes .empty .empty entity.update fun _ => True := by
  apply takes_requiring
  intro compiled
  cases compiled.plan.update with
  | none => exact takes_pure .empty trivial
  | some statement =>
      apply takes_requiring
      intro arguments
      exact (Database.takes_executeStatement _ _ _).map

theorem takes_delete (entity : Entity) :
    Takes .empty .empty entity.delete fun _ => True := by
  apply takes_requiring
  intro identifier
  exact entity.table.takes_deleteRow identifier

theorem takes_reload (entity : Entity) :
    Takes .empty .empty entity.reload fun _ => True := by
  apply takes_requiring
  intro identifier
  exact (entity.table.takes_get identifier).map

theorem takes_set (entity : Entity) (setter : Setter) (type : TypeRef) (value : Value) :
    Takes .empty .empty (entity.set setter type value) fun _ => True := by
  apply takes_requiring
  intro checked
  apply takes_requiring
  intro identifier
  apply takes_requiring
  intro arguments
  apply takes_requiring
  intro compiled
  apply (Database.takes_executeStatement _ _ _).bind
  exact fun _ _ => takes_require .empty fun _ _ => trivial

end Entity

/-! ## Patches and inserts -/

theorem PatchRow.takes_write (row : PatchRow) (compiled : CompiledPatch) (identifier : Value) :
    Takes .empty .empty (row.write compiled identifier) fun _ => True := by
  apply takes_requiring
  intro arguments
  exact (Database.takes_executeStatement _ _ _).map

theorem Entity.takes_patch
    (entity : Entity)
    (row : PatchRow)
    (patchName : String)
    (compiled : CompiledPatch) :
    Takes .empty .empty (entity.patch row patchName compiled) fun _ => True := by
  apply takes_requiring
  intro _
  apply takes_requiring
  intro identifier
  apply takes_requiring
  intro _
  apply (row.takes_write compiled identifier).bind
  intro _ _
  apply takes_requiring
  exact fun _ => takes_pure .empty trivial

namespace InsertRow

variable {cursor : Cursor}

theorem takes_firstColumn
    (isOpen : cursor.number ∈ held.cursors)
    (isOrdinary : cursor.reply.IsOrdinary)
    (sql : String) :
    Takes held held (firstColumn sql cursor) fun _ => True := by
  apply (Database.takes_fetchOne isOpen isOrdinary (some sql)).bind
  rintro ⟨columns, rest⟩ -
  cases columns with
  | none => exact takes_throw held _
  | some columns =>
      cases columns with
      | nil => exact takes_throw held _
      | cons value others => exact takes_pure held trivial

theorem takes_insertReturning
    (held : Holdings)
    (row : InsertRow)
    (plan : InsertPlan)
    (dialect : Option String) :
    Takes held held (row.insertReturning plan dialect) fun _ => True := by
  apply Database.takes_withCursor
  intro cursor
  apply takes_requiring
  intro arguments
  apply (Database.takes_execute List.mem_cons_self plan.statement.sql (some arguments)).bind
  rintro executed ⟨sameNumber, isOrdinary⟩
  have isOpen : executed.number ∈ (held.opening cursor.number).cursors := by
    rw [sameNumber]
    exact List.mem_cons_self
  exact (Database.takes_fetchRow isOpen isOrdinary plan.statement.sql).map

theorem takes_fetchIdentifier
    (isOpen : cursor.number ∈ held.cursors)
    (name : String)
    (query : Option Statement) :
    Takes held held (fetchIdentifier name cursor query) fun _ => True := by
  cases query with
  | none => exact takes_pure held trivial
  | some statement =>
      apply (Database.takes_execute isOpen statement.sql (some [])).bind
      rintro executed ⟨sameNumber, isOrdinary⟩
      rw [← sameNumber] at isOpen
      exact (takes_firstColumn isOpen isOrdinary statement.sql).map

theorem takes_fetchDefaults
    (isOpen : cursor.number ∈ held.cursors)
    (identifier : Value)
    (query : Option Statement) :
    Takes held held (fetchDefaults identifier cursor query) fun _ => True := by
  cases query with
  | none => exact takes_pure held trivial
  | some statement =>
      apply takes_requiring
      intro arguments
      apply (Database.takes_execute isOpen statement.sql (some arguments)).bind
      rintro executed ⟨sameNumber, isOrdinary⟩
      rw [← sameNumber] at isOpen
      exact (Database.takes_fetchRow isOpen isOrdinary statement.sql).map

theorem takes_insertThenFetch
    (held : Holdings)
    (row : InsertRow)
    (plan : InsertPlan)
    (identifierName : String)
    (dialect : Option String) :
    Takes held held (row.insertThenFetch plan identifierName dialect) fun _ => True := by
  apply Database.takes_withCursor
  intro cursor
  apply takes_requiring
  intro arguments
  apply (Database.takes_execute List.mem_cons_self plan.statement.sql (some arguments)).bind
  rintro executed ⟨sameNumber, isOrdinary⟩
  have isOpen : executed.number ∈ (held.opening cursor.number).cursors := by
    rw [sameNumber]
    exact List.mem_cons_self
  apply (takes_fetchIdentifier isOpen identifierName plan.lastInsertId).bind
  intro generated _
  exact (takes_fetchDefaults isOpen _ plan.fetchDefaults).map

/-- Both ways of inserting a row release everything before the new entity is read. -/
theorem takes_insert (row : InsertRow) :
    Takes .empty .empty row.insert fun _ => True := by
  apply takes_requiring
  intro compiled
  cases compiled.plan.insert with
  | none => exact takes_throw .empty _
  | some plan =>
      have generates : Takes .empty .empty (row.generate compiled plan) fun _ => True := by
        apply Database.takes_acquire
        intro held endpoint
        split_ifs
        · exact takes_insertReturning held row plan _
        · exact Database.takes_unitOfWork (takes_insertThenFetch held row plan _ _) endpoint _
      apply generates.bind
      intro generated _
      apply takes_requiring
      exact fun entity => takes_pure .empty trivial

end InsertRow

/-! ## All operations -/

namespace RowOperation

theorem takes_selecting
    {α : Type}
    {fetch : Decoder Value → String → List Value → Option String → Database α}
    (takes :
      ∀ decoder sql arguments dialect,
        Takes .empty .empty (fetch decoder sql arguments dialect) fun _ => True)
    (query : Query.ConditionalQuery)
    (member : String)
    (parameters : Query.Parameters) :
    Takes .empty .empty (selecting query member parameters fetch) fun _ => True := by
  apply takes_requiring
  exact fun selected => takes _ _ _ _

theorem takes_action {α : Type} (operation : RowOperation α) :
    Takes .empty .empty operation.action fun _ => True := by
  cases operation with
  | get table identifier => exact table.takes_get identifier
  | all table batch => exact table.takes_all batch
  | lookup table getter argument => exact table.takes_lookup getter argument
  | update entity => exact entity.takes_update
  | delete entity => exact entity.takes_delete
  | deleteRow table identifier => exact table.takes_deleteRow identifier
  | set entity setter type value => exact entity.takes_set setter type value
  | insert row => exact row.takes_insert
  | patch entity row patchName compiled => exact entity.takes_patch row patchName compiled
  | writePatch row compiled identifier => exact row.takes_write compiled identifier
  | reload entity => exact entity.takes_reload
  | fetchAll query parameters => exact takes_selecting Database.takes_fetchAll query _ parameters
  | fetchOne query parameters =>
      exact takes_selecting Database.takes_fetchOnlyRow query _ parameters
  | fetchOptional query parameters =>
      exact takes_selecting Database.takes_fetchOptional query _ parameters

end RowOperation

/-! ## Every operation and every stream -/

/--
What is held changes from one to the other by the events of an outcome, and if any of their calls
has failed, the outcome is a failure of the connection.
-/
def Connection.Accounts
    {α : Type}
    (before : Connection)
    (held : Holdings)
    (outcome : Except Failure α × Connection)
    (left : Holdings) :
    Prop :=
  ∃ events : List Event,
    outcome.2.journal = before.journal ++ events ∧
      held.afterAll? events = some left ∧
      ∀ event ∈ events,
        event.succeeded = false →
          ∃ (name shown : String) (sql : Option String),
            outcome.1 = .error (.connection name shown sql)

theorem Connection.Yields.accounts
    {α : Type}
    {before : Connection}
    {left : Holdings}
    {outcome : Except Failure α × Connection}
    {gives : α → Prop}
    (yields : before.Yields held outcome left gives) :
    before.Accounts held outcome left := by
  rcases yields with ⟨⟨events, carries, surfaces⟩, -⟩
  refine ⟨events, carries.leads.journal, carries.holds, ?_⟩
  intro event member failed
  rcases surfaces with allSucceed | ⟨failure, result, name, shown, sql, rfl⟩
  · rw [allSucceed event member] at failed
    cases failed
  · exact ⟨name, shown, sql, result⟩

/--
On every handle whose driver raises ordinary faults, if any, an operation releases all that it
takes, and it fails when a call of it fails.  A stream holds its cursor and its borrowed connection
exactly while it reads: after any calls, the next one fails if a call of the driver fails, and ends
the stream unless it gives a row, and closing the stream ends it as well.
-/
theorem accounts_of_isOrdinary
    (connection : Connection)
    (isOrdinary : connection.IsOrdinary) :
    (∀ (α : Type) (operation : RowOperation α),
        connection.Accounts .empty (operation.action.on connection) .empty) ∧
      ∀ (α : Type) (request : StreamRequest) (decoder : Decoder α) (configured : Int)
        (calls : List Stream.StreamCall) (stream : Stream α) (after : Connection),
        Stream.afterCalls configured calls (⟨request, decoder, .waiting⟩, connection) =
            (stream, after) →
          (∃ events : List Event,
              after.journal = connection.journal ++ events ∧
                Holdings.empty.afterAll? events =
                  some (stream.state.holdings connection.isPool)) ∧
            after.Accounts (stream.state.holdings connection.isPool)
                ((stream.next configured after).result, (stream.next configured after).connection)
                ((stream.next configured after).stream.state.holdings connection.isPool) ∧
            ((∀ value, (stream.next configured after).result ≠ .ok (some value)) →
                (stream.next configured after).stream.state = .ended) ∧
            after.Accounts (stream.state.holdings connection.isPool)
                (Except.ok (), (stream.close after).2) .empty ∧
            (stream.close after).1.state = .ended := by
  constructor
  · intro α operation
    exact (operation.takes_action connection isOrdinary connection.owns_empty).accounts
  · intro α request decoder configured calls stream after reached
    let fresh : Stream α := ⟨request, decoder, .waiting⟩
    have used :=
      Stream.exists_carries_afterCalls configured calls fresh isOrdinary connection.owns_empty
        trivial
    rw [reached] at used
    rcases used with ⟨events, carries, ordinaryStream⟩
    have samePool := carries.leads.isPool_eq
    have owns := carries.owns
    dsimp only at carries owns ordinaryStream samePool
    have holds := carries.holds
    rw [← samePool] at owns holds ⊢
    have advances :=
      stream.advances_next configured (carries.leads.isOrdinary isOrdinary) owns ordinaryStream
    refine ⟨⟨events, carries.leads.journal, holds⟩, ?_, advances.ends, ?_, ?_⟩
    · exact advances.yields.accounts
    · exact (stream.yields_close owns).accounts
    · exact stream.state_close after

/-- A pool whose connection is lost while rows are fetched, after so many calls for rows. -/
def losingPool (after : Nat) : Connection where
  kind := .pool
  replies := [{
    columns := ["id", "body"]
    rows := [[.int 1, .text "first"], [.int 2, .text "second"]]
    fetchFault := some (⟨.ordinary, "OSError", "lost", "lost"⟩, after) }]

/-- The notes, fetched one by one. -/
def noteStream : Stream Entity where
  request :=
    { sql := "SELECT id, body FROM notes", arguments := [], dialect := none, batch := some 1 }
  decoder := InsertRow.noteClass.decoder

theorem isOrdinary_losingPool (after : Nat) : (losingPool after).IsOrdinary := by
  constructor
  case opens => exact fun fault member => by cases member
  case opensEach => exact fun number fault member => by cases member
  case commits => exact fun fault member => by cases member
  case undoes => exact fun fault member => by cases member
  case replies =>
    intro reply member
    rw [List.mem_singleton.1 member]
    constructor
    · exact fun fault member => by cases member
    · rintro _ ⟨⟩
      rfl

/--
A note cannot be fetched from a pool that loses its connection at once.  Where the connection is
lost after the first note of a stream, the stream has given that note and holds nothing after the
failure.
-/
theorem accounts_losingPool :
    ∃ (stream : Stream Entity) (after : Connection),
      ((losingPool 0).IsOrdinary ∧ (losingPool 1).IsOrdinary ∧
          Stream.afterCalls 100 [.next] (noteStream, losingPool 1) = (stream, after)) ∧
        (losingPool 0).Accounts .empty
            ((InsertRow.noteClass.get (.int 1)).on (losingPool 0)) .empty ∧
        (∃ sql,
          ((InsertRow.noteClass.get (.int 1)).on (losingPool 0)).1 =
            .error (.connection "OSError" "lost" sql)) ∧
        after.Accounts ⟨true, [0]⟩
            ((stream.next 100 after).result, (stream.next 100 after).connection) .empty ∧
        (stream.next 100 after).result =
          .error (.connection "OSError" "lost" (some noteStream.request.sql)) := by
  have first := accounts_of_isOrdinary (losingPool 0) (isOrdinary_losingPool 0)
  have second := accounts_of_isOrdinary (losingPool 1) (isOrdinary_losingPool 1)
  refine
    ⟨_, _, ⟨isOrdinary_losingPool 0, isOrdinary_losingPool 1, rfl⟩,
      first.1 Entity (.get InsertRow.noteClass (.int 1)), ⟨_, rfl⟩, ?_, rfl⟩
  exact (second.2 Entity noteStream.request noteStream.decoder 100 [.next] _ _ rfl).2.1

end SqlMapping
