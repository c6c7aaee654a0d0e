import SqlMapping.Database.UnitOfWork
import SqlMapping.Proofs.Database.Journal

/-!
# Atomicity of units of work

A unit of work that does not join an open transaction is all or nothing: whatever the
connection answers, its work has been confirmed if it succeeds, and nothing has been confirmed
if it fails.  The failure may come from opening the transaction, from the body, from undoing
the work or from confirming it.

The main statement says that this holds on every connection without an open transaction.
-/

namespace SqlMapping

/-- A call that asks to confirm a transaction, by the statement for it or through the driver. -/
def Call.IsCommit : Call → Prop
  | .execute _ sql _ => sql = "COMMIT"
  | .commit => True
  | .openCursor .. | .fetchOne _ | .fetchMany .. | .fetchAll _ | .closeCursor _ | .rollback
  | .borrow | .giveBack => False

/-- An event in which a transaction was confirmed. -/
def Event.Confirms (event : Event) : Prop := event.call.IsCommit ∧ event.succeeded = true

instance (call : Call) : Decidable call.IsCommit :=
  match call with
  | .execute _ sql _ => inferInstanceAs (Decidable (sql = "COMMIT"))
  | .commit => inferInstanceAs (Decidable True)
  | .openCursor .. | .fetchOne _ | .fetchMany .. | .fetchAll _ | .closeCursor _ | .rollback
  | .borrow | .giveBack => inferInstanceAs (Decidable False)

instance (event : Event) : Decidable event.Confirms :=
  inferInstanceAs (Decidable (event.call.IsCommit ∧ event.succeeded = true))

/-- Working within a transaction does not confirm it. -/
theorem Call.Within.not_confirms
    {statements : List String}
    (noCommit : "COMMIT" ∉ statements)
    (event : Event)
    (within : event.call.Within statements) :
    ¬ event.Confirms := by
  rintro ⟨isCommit, -⟩
  rcases event with ⟨call, succeeded⟩
  cases call with
  | execute cursor sql arguments =>
      have isStatement : sql ∈ statements := within
      have isConfirmation : sql = "COMMIT" := isCommit
      rw [isConfirmation] at isStatement
      exact noCommit isStatement
  | commit => exact within
  | _ => exact isCommit

namespace Connection

variable {before middle after : Connection}

/-- A transaction was confirmed between two states of a connection. -/
def Confirms (before after : Connection) : Prop :=
  ∃ events : List Event,
    after.journal = before.journal ++ events ∧ ∃ event ∈ events, event.Confirms

/-- No transaction was confirmed between two states of a connection. -/
def ConfirmsNothing (before after : Connection) : Prop :=
  before.Adds (fun event => ¬ event.Confirms) after

theorem ConfirmsNothing.not_confirms
    (nothing : before.ConfirmsNothing after) :
    ¬ before.Confirms after := by
  rintro ⟨events, journal, event, member, confirms⟩
  rcases nothing with ⟨others, otherJournal, noneConfirms⟩
  have same : events = others := List.append_cancel_left (journal.symm.trans otherJournal)
  rw [same] at member
  exact noneConfirms event member confirms

theorem ConfirmsNothing.trans_confirms
    (nothing : before.ConfirmsNothing middle)
    (confirms : middle.Confirms after) :
    before.Confirms after := by
  rcases nothing with ⟨early, earlyJournal, -⟩
  rcases confirms with ⟨late, lateJournal, event, member, confirmed⟩
  refine ⟨early ++ late, ?_, event, List.mem_append_right early member, confirmed⟩
  rw [lateJournal, earlyJournal, List.append_assoc]

theorem Confirms.trans
    {allowed : Event → Prop}
    (confirms : before.Confirms middle)
    (adds : middle.Adds allowed after) :
    before.Confirms after := by
  rcases confirms with ⟨early, earlyJournal, event, member, confirmed⟩
  rcases adds with ⟨late, lateJournal, -⟩
  refine ⟨early ++ late, ?_, event, List.mem_append_left late member, confirmed⟩
  rw [lateJournal, earlyJournal, List.append_assoc]

theorem confirms_record
    (connection : Connection)
    {call : Call}
    (isCommit : call.IsCommit) :
    connection.Confirms (connection.record call true) :=
  ⟨[⟨call, true⟩], rfl, ⟨call, true⟩, List.mem_singleton_self _, isCommit, rfl⟩

theorem confirmsNothing_record_false (connection : Connection) (call : Call) :
    connection.ConfirmsNothing (connection.record call false) :=
  connection.adds_record fun confirms => Bool.false_ne_true confirms.2

/-- All or nothing: a success has confirmed its work, a failure has confirmed nothing. -/
def Settles
    {α : Type}
    (before : Connection)
    (outcome : Except Failure α × Connection) :
    Prop :=
  match outcome with
  | (.ok _, after) => before.Confirms after
  | (.error _, after) => before.ConfirmsNothing after

theorem ConfirmsNothing.trans_settles
    {α : Type}
    {outcome : Except Failure α × Connection}
    (nothing : before.ConfirmsNothing middle)
    (settles : middle.Settles outcome) :
    before.Settles outcome := by
  rcases outcome with ⟨result, after⟩
  cases result with
  | ok value => exact nothing.trans_confirms settles
  | error failure => exact Adds.trans nothing settles

/-- What happens after all is settled may add events that confirm nothing. -/
theorem Settles.trans
    {α : Type}
    {outcome : Except Failure α × Connection}
    (settles : before.Settles outcome)
    (nothing : outcome.2.ConfirmsNothing after) :
    before.Settles (outcome.1, after) := by
  rcases outcome with ⟨result, middle⟩
  cases result with
  | ok value => exact Confirms.trans settles nothing
  | error failure => exact Adds.trans settles nothing

/-- A call that asks to confirm the work has done so exactly when it succeeds. -/
theorem settles_attempt
    {α : Type}
    (connection : Connection)
    (sql : Option String)
    (call : Call)
    (isCommit : call.IsCommit)
    (fault : Option Fault)
    (value : α) :
    connection.Settles
      ((connection.attempt call fault value).1.mapError (Failure.ofFault sql),
        (connection.attempt call fault value).2) := by
  cases fault with
  | none => exact connection.confirms_record isCommit
  | some fault => exact connection.confirmsNothing_record_false call

/-- The endpoint at which operations on a handle do their work. -/
def workEndpoint (connection : Connection) : Endpoint :=
  if connection.isPool then .borrowed else .handle

/-- No transaction is known to be open where operations do their work. -/
def IsIdle (connection : Connection) : Prop :=
  (connection.attributesAt connection.workEndpoint).isInTransaction ≠ .ok true

end Connection

namespace Database

variable {α : Type} {endpoint : Endpoint} {beginSql : String}

/-- An action that confirms nothing, whatever the connection answers. -/
def ConfirmsNothing (action : Database α) : Prop :=
  Emits (fun event => ¬ event.Confirms) action

theorem Executes.confirmsNothing
    {statements : List String}
    {action : Database α}
    (executes : Executes statements action)
    (noCommit : "COMMIT" ∉ statements) :
    ConfirmsNothing action :=
  executes.mono (Call.Within.not_confirms noCommit)

/-! ## Opening, undoing and confirming -/

/-- A statement that controls transactions is the only one that is executed for it. -/
theorem executes_control (sql : String) : Executes [sql] (control sql) := by
  apply Emits.bind
  · exact emits_driver fun connection => connection.adds_openCursor (fun _ _ _ => trivial) _
  · intro cursor
    refine Emits.bind (Emits.followedBy ?_ ?_) fun _ => emits_pure _
    · exact emits_driver fun connection =>
        connection.adds_execute cursor fun _ => List.mem_singleton_self sql
    · exact fun connection => connection.adds_record trivial

theorem confirmsNothing_control
    {sql : String}
    (noCommit : sql ≠ "COMMIT") :
    ConfirmsNothing (control sql) :=
  (executes_control sql).confirmsNothing fun member => noCommit (List.mem_singleton.1 member).symm

theorem on_beginWork
    (endpoint : Endpoint)
    (beginSql : String)
    (connection : Connection) :
    (beginWork endpoint beginSql).on connection =
      match (connection.attributesAt endpoint).isInTransaction with
      | .error failure => (.error failure, connection)
      | .ok true => (.ok .joined, connection)
      | .ok false =>
        if (connection.attributesAt endpoint).isAutocommit then
          (control beginSql >>= fun _ => pure Transaction.explicit).on connection
        else (.ok .implicit, connection) := by
  rw [beginWork, on_bind]
  dsimp only [inspect, on_ofFunction]
  rw [on_bind]
  dsimp only [require, on_ofFunction]
  cases (connection.attributesAt endpoint).isInTransaction with
  | error failure => rfl
  | ok isOpen =>
      cases isOpen with
      | true => rfl
      | false =>
          cases (connection.attributesAt endpoint).isAutocommit with
          | true => rfl
          | false => rfl

/-- Opening a transaction confirms nothing. -/
theorem confirmsNothing_beginWork
    (endpoint : Endpoint)
    (plain : beginSql ≠ "COMMIT") :
    ConfirmsNothing (beginWork endpoint beginSql) := by
  intro connection
  rw [on_beginWork]
  cases (connection.attributesAt endpoint).isInTransaction with
  | error failure => exact Connection.Adds.refl connection
  | ok isOpen =>
      cases isOpen with
      | true => exact Connection.Adds.refl connection
      | false =>
          by_cases autocommit : (connection.attributesAt endpoint).isAutocommit = true
          · simp only [if_pos autocommit]
            exact (confirmsNothing_control plain).bind (fun _ => emits_pure _) connection
          · simp only [if_neg autocommit]
            exact Connection.Adds.refl connection

/-- Without an open transaction there is none to join. -/
theorem ne_joined_of_beginWork
    {connection after : Connection}
    {transaction : Transaction}
    (idle : (connection.attributesAt endpoint).isInTransaction ≠ .ok true)
    (begun : (beginWork endpoint beginSql).on connection = (.ok transaction, after)) :
    transaction ≠ .joined := by
  rintro rfl
  rw [on_beginWork] at begun
  cases isOpen : (connection.attributesAt endpoint).isInTransaction with
  | error failure =>
      rw [isOpen] at begun
      cases begun
  | ok isOpenNow =>
      cases isOpenNow with
      | true => exact idle isOpen
      | false =>
          rw [isOpen] at begun
          by_cases autocommit : (connection.attributesAt endpoint).isAutocommit = true
          · simp only [if_pos autocommit, on_bind] at begun
            generalize (control beginSql).on connection = outcome at begun
            rcases outcome with ⟨result, middle⟩
            cases result with
            | error failure => cases begun
            | ok value => cases begun
          · simp only [if_neg autocommit] at begun
            cases begun

theorem confirmsNothing_rollback (endpoint : Endpoint) (connection : Connection) :
    connection.ConfirmsNothing (Connection.rollback endpoint connection).2 := by
  rw [Connection.rollback]
  by_cases lends : connection.isLender endpoint = true
  · rw [if_pos lends]
    exact Connection.Adds.refl connection
  · rw [if_neg lends]
    exact connection.adds_attempt (fun _ confirms => confirms.1) _ _

/-- Undoing confirms nothing. -/
theorem confirmsNothing_undoWork (endpoint : Endpoint) (transaction : Transaction) :
    ConfirmsNothing (undoWork endpoint transaction) := by
  cases transaction with
  | joined => exact emits_pure ()
  | explicit => exact confirmsNothing_control (by decide)
  | implicit => exact emits_driver (confirmsNothing_rollback endpoint)

theorem settles_followedBy
    {action : Database α}
    {cleanUp : Connection → Connection}
    {before connection : Connection}
    (settles : before.Settles (action.on connection))
    (cleans : ∀ connection : Connection, connection.ConfirmsNothing (cleanUp connection)) :
    before.Settles ((action.followedBy cleanUp).on connection) :=
  settles.trans (cleans (action.on connection).2)

theorem settles_bind_pure
    {β : Type}
    {action : Database α}
    {function : α → β}
    {before connection : Connection}
    (settles : before.Settles (action.on connection)) :
    before.Settles ((action >>= fun value => pure (function value)).on connection) := by
  rw [on_bind]
  generalize action.on connection = outcome at settles
  rcases outcome with ⟨result, after⟩
  cases result with
  | error failure => exact settles
  | ok value => exact settles

/-- The statement that confirms has confirmed exactly when it succeeds. -/
theorem settles_control_commit (connection : Connection) :
    connection.Settles ((control "COMMIT").on connection) := by
  have opening :
      ConfirmsNothing (driver (some "COMMIT") (Connection.openCursor false)) :=
    emits_driver fun connection => connection.adds_openCursor (fun _ _ _ confirms => confirms.1) _
  have opened := opening connection
  rw [control, on_bind]
  generalize (driver (some "COMMIT") (Connection.openCursor false)).on connection = outcome
    at opened
  rcases outcome with ⟨result, after⟩
  cases result with
  | error failure => exact opened
  | ok cursor =>
      have executed :
          after.Settles
            ((driver (some "COMMIT") (Connection.execute cursor "COMMIT" none)).on after) :=
        Connection.settles_attempt { after with replies := after.replies.tail } _
          (.execute cursor.number "COMMIT" none) rfl _ _
      apply Connection.ConfirmsNothing.trans_settles opened
      apply settles_bind_pure
      exact
        settles_followedBy executed fun connection =>
          connection.adds_record fun confirms => confirms.1

/-- Confirming has confirmed exactly when it succeeds, unless the transaction was joined. -/
theorem settles_commitWork
    {transaction : Transaction}
    (opened : transaction ≠ .joined)
    (connection : Connection) :
    connection.Settles ((commitWork endpoint transaction).on connection) := by
  cases transaction with
  | joined => exact absurd rfl opened
  | explicit => exact settles_control_commit connection
  | implicit =>
      show connection.Settles
        ((Connection.commit endpoint connection).1.mapError (Failure.ofFault (some "COMMIT")),
          (Connection.commit endpoint connection).2)
      rw [Connection.commit]
      by_cases lends : connection.isLender endpoint = true
      · rw [if_pos lends]
        exact Connection.Adds.refl connection
      · rw [if_neg lends]
        exact connection.settles_attempt _ .commit trivial _ _

/-! ## The whole unit of work -/

/-- Ending a unit of work settles it, as its body demands. -/
theorem settles_endWork
    {transaction : Transaction}
    (opened : transaction ≠ .joined)
    (outcome : Except Failure α)
    (connection : Connection) :
    connection.Settles ((endWork endpoint transaction outcome).on connection) := by
  cases outcome with
  | ok value => exact settles_bind_pure (settles_commitWork opened connection)
  | error failure =>
      have undone := confirmsNothing_undoWork endpoint transaction connection
      rw [endWork, on_bind]
      generalize (undoWork endpoint transaction).on connection = undoing at undone
      rcases undoing with ⟨result, after⟩
      cases result with
      | ok value => exact undone
      | error other => exact undone

/-- A unit of work that joins nothing is all or nothing. -/
theorem settles_unitOfWork
    {body : Database α}
    (quiet : ConfirmsNothing body)
    (plain : beginSql ≠ "COMMIT")
    {connection : Connection}
    (idle : (connection.attributesAt endpoint).isInTransaction ≠ .ok true) :
    connection.Settles ((unitOfWork endpoint beginSql body).on connection) := by
  have opening := confirmsNothing_beginWork endpoint plain connection
  rw [unitOfWork, on_bind]
  cases begun : (beginWork endpoint beginSql).on connection with
  | mk result after =>
      rw [begun] at opening
      cases result with
      | error failure => exact opening
      | ok transaction =>
          have opened := ne_joined_of_beginWork idle begun
          apply Connection.ConfirmsNothing.trans_settles opening
          apply Connection.ConfirmsNothing.trans_settles (quiet after)
          exact settles_endWork opened (body.on after).1 (body.on after).2

/-- Work that is settled wherever it is done is settled on a borrowed connection as well. -/
theorem settles_acquire
    {action : Endpoint → Database α}
    {connection : Connection}
    (idle : connection.IsIdle)
    (settles :
      ∀ (endpoint : Endpoint) (connection : Connection),
        (connection.attributesAt endpoint).isInTransaction ≠ .ok true →
          connection.Settles ((action endpoint).on connection)) :
    connection.Settles ((acquire action).on connection) := by
  rw [on_acquire]
  rw [Connection.IsIdle, Connection.workEndpoint] at idle
  by_cases pool : connection.isPool = true
  · rw [if_pos pool] at idle ⊢
    have borrowed : connection.ConfirmsNothing connection.borrow :=
      connection.adds_record fun confirms => confirms.1
    have worked := borrowed.trans_settles (settles .borrowed connection.borrow idle)
    exact worked.trans (Connection.adds_record _ fun confirms => confirms.1)
  · rw [if_neg pool] at idle ⊢
    exact settles .handle connection idle

end Database

end SqlMapping
