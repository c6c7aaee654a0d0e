import SqlMapping.Proofs.Database.Holdings

/-!
# Bracketed units of work

What a unit of work asks of its connection on its own account is known from the transaction that
it finds or opens: nothing where it joins one, and else at most one statement before the body and
exactly one attempt to end the transaction after it.  What the body does in between is open.

The main statement says that every run is bracketed like this, whatever the body does and whatever
fails.  A failure to undo the work takes the place of the failure of the body, whether it comes
from the connection or from an interruption.
-/

namespace SqlMapping

/-- How a unit of work relates to the transaction of a connection with some attributes. -/
def ConnectionAttributes.transaction (attributes : ConnectionAttributes) :
    Except Failure Transaction :=
  attributes.isInTransaction.map fun isOpen =>
    if isOpen then .joined else if attributes.isAutocommit then .explicit else .implicit

/-- Something that a unit of work asks of its connection on its own account. -/
inductive Control where
  /-- A statement, executed on a cursor of its own. -/
  | statement (sql : String)
  /-- A call of the connection; its failure names the statement that the call stands for. -/
  | call (request : Call) (sql : String)

/-- The statement that a failure names. -/
def Control.sql : Control → String
  | .statement sql | .call _ sql => sql

namespace Transaction

/-- What opens a transaction: a statement where statements take effect one by one. -/
def opening (beginSql : String) : Transaction → Option Control
  | .explicit => some (.statement beginSql)
  | .joined | .implicit => none

/-- What ends a transaction after a body that has succeeded or failed. -/
def closing (succeeded : Bool) : Transaction → Option Control
  | .joined => none
  | .explicit => some (.statement (if succeeded then "COMMIT" else "ROLLBACK"))
  | .implicit => some (if succeeded then .call .commit "COMMIT" else .call .rollback "ROLLBACK")

end Transaction

/--
The events of a single attempt at a control, and its outcome.  An object that lends connections has
no call to end a transaction, so that it sees nothing of the attempt.
-/
inductive Control.Attempt (lends : Bool) :
    Option Control → List Event → Except Fault Unit → Prop where
  | idle : Attempt lends none [] (.ok ())
  | unopened
      {sql : String}
      {number : Nat}
      {style : CursorStyle}
      {fault : Fault} :
      Attempt lends (some (.statement sql)) [⟨.openCursor number style, false⟩] (.error fault)
  | executed
      {sql : String}
      {number : Nat}
      {style : CursorStyle}
      {outcome : Except Fault Unit} :
      Attempt lends (some (.statement sql))
        [⟨.openCursor number style, true⟩, ⟨.execute number sql none, outcome.isOk⟩,
          ⟨.closeCursor number, true⟩]
        outcome
  | called
      {request : Call}
      {sql : String}
      {outcome : Except Fault Unit} :
      Attempt lends (some (.call request sql)) [⟨request, outcome.isOk⟩] outcome
  | lacking
      {request : Call}
      {sql : String}
      {fault : Fault}
      (isLender : lends = true) :
      Attempt lends (some (.call request sql)) [] (.error fault)

/-- The failure that a fault of a control becomes. -/
def Control.failure (control : Option Control) (fault : Fault) : Failure :=
  Failure.ofFault (control.map Control.sql) fault

namespace Connection

/-- A control is attempted between two states of a connection, and nothing else happens. -/
def Issues
    (endpoint : Endpoint)
    (before : Connection)
    (control : Option Control)
    (result : Except Failure Unit)
    (after : Connection) :
    Prop :=
  ∃ (events : List Event) (outcome : Except Fault Unit),
    before.LeadsTo events after ∧
      Control.Attempt (before.isLender endpoint) control events outcome ∧
        result = outcome.mapError (Control.failure control)

variable {endpoint : Endpoint}

theorem issues_nothing (connection : Connection) :
    connection.Issues endpoint none (.ok ()) connection :=
  ⟨[], .ok (), LeadsTo.refl connection, .idle, rfl⟩

end Connection

namespace Database

variable {α : Type} {endpoint : Endpoint} {beginSql : String}

/-- A statement that controls transactions is attempted once. -/
theorem issues_control (sql : String) (connection : Connection) :
    connection.Issues endpoint (some (.statement sql)) ((control sql).on connection).1
      ((control sql).on connection).2 := by
  rcases connection.openCursor_outcome false with
    ⟨number, style, outcome, opened, isOpened, opens, isNumber⟩
  have opening :
      (driver (some sql) (Connection.openCursor false)).on connection =
        (outcome.mapError (Failure.ofFault (some sql)), opened) := by
    rw [driver, on_ofFunction, isOpened]
  rw [control, on_bind, opening]
  cases outcome with
  | error fault => exact ⟨_, .error fault, opens, .unopened, rfl⟩
  | ok cursor =>
      rcases opened.execute_outcome cursor sql none with
        ⟨outcome, executed, isExecuted, executes, -⟩
      have closes :
          executed.LeadsTo [⟨.closeCursor cursor.number, true⟩]
            (executed.closeCursor cursor.number) :=
        executed.leadsTo_record rfl true
      have executing :
          ((driver (some sql) (Connection.execute cursor sql none)).followedBy
              (Connection.closeCursor cursor.number)).on opened =
            (outcome.mapError (Failure.ofFault (some sql)),
              executed.closeCursor cursor.number) := by
        rw [followedBy, on_ofFunction, driver, on_ofFunction, isExecuted]
      have leads := (opens.trans executes).trans closes
      rw [← isNumber cursor rfl] at leads
      have attempted (outcome : Except Fault Unit) :
          Control.Attempt (connection.isLender endpoint) (some (.statement sql))
            [⟨.openCursor cursor.number style, true⟩,
              ⟨.execute cursor.number sql none, outcome.isOk⟩, ⟨.closeCursor cursor.number, true⟩]
            outcome := .executed
      dsimp only [Except.mapError]
      rw [on_bind, executing]
      cases outcome with
      | error fault => exact ⟨_, .error fault, leads, attempted (.error fault), rfl⟩
      | ok next => exact ⟨_, .ok (), leads, attempted (.ok ()), rfl⟩

/-- A call that ends a transaction is attempted once, where there is such a call. -/
theorem issues_call
    {request : Call}
    (noRequest : request.request? = none)
    (sql : String)
    (missing : Fault)
    (fault : Connection → Option Fault)
    (connection : Connection) :
    connection.Issues endpoint (some (.call request sql))
      ((driver (some sql) fun connection =>
          if connection.isLender endpoint then (.error missing, connection)
          else connection.attempt request (fault connection) ()).on connection).1
      ((driver (some sql) fun connection =>
          if connection.isLender endpoint then (.error missing, connection)
          else connection.attempt request (fault connection) ()).on connection).2 := by
  rw [driver, on_ofFunction]
  by_cases isLender : connection.isLender endpoint = true
  · rw [if_pos isLender]
    exact ⟨[], .error missing, Connection.LeadsTo.refl connection, .lacking isLender, rfl⟩
  · rw [if_neg isLender]
    exact
      ⟨_, (connection.attempt request (fault connection) ()).1,
        connection.attempt_outcome noRequest (fault connection) (), .called, rfl⟩

/-- A run of a body as a unit of work, from a connection to an outcome. -/
inductive Brackets
    (endpoint : Endpoint)
    (beginSql : String)
    (body : Database α)
    (before : Connection) :
    Except Failure α × Connection → Prop where
  /-- The connection does not tell whether a transaction is open. -/
  | unknown
      {failure : Failure}
      (mode : (before.attributesAt endpoint).transaction = .error failure) :
      Brackets endpoint beginSql body before (.error failure, before)
  /-- The transaction is not opened, and the body does not run. -/
  | unopened
      {transaction : Transaction}
      {failure : Failure}
      {after : Connection}
      (mode : (before.attributesAt endpoint).transaction = .ok transaction)
      (opens : before.Issues endpoint (transaction.opening beginSql) (.error failure) after) :
      Brackets endpoint beginSql body before (.error failure, after)
  /-- The body runs, and its transaction is ended as its outcome demands. -/
  | ended
      {transaction : Transaction}
      {opened worked after : Connection}
      {outcome : Except Failure α}
      {ending : Except Failure Unit}
      (mode : (before.attributesAt endpoint).transaction = .ok transaction)
      (opens : before.Issues endpoint (transaction.opening beginSql) (.ok ()) opened)
      (works : body.on opened = (outcome, worked))
      (closes : worked.Issues endpoint (transaction.closing outcome.isOk) ending after) :
      Brackets endpoint beginSql body before (ending >>= fun _ => outcome, after)

/-- What ends a transaction is attempted once, as the outcome of the body demands. -/
theorem exists_ending
    (endpoint : Endpoint)
    (transaction : Transaction)
    (outcome : Except Failure α)
    (connection : Connection) :
    ∃ (ending : Except Failure Unit) (after : Connection),
      connection.Issues endpoint (transaction.closing outcome.isOk) ending after ∧
        (endWork endpoint transaction outcome).on connection =
          (ending >>= fun _ => outcome, after) := by
  have confirms :
      connection.Issues endpoint (transaction.closing true)
        ((commitWork endpoint transaction).on connection).1
        ((commitWork endpoint transaction).on connection).2 := by
    cases transaction with
    | joined => exact connection.issues_nothing
    | explicit => exact issues_control "COMMIT" connection
    | implicit => exact issues_call rfl "COMMIT" _ (fun connection => connection.faults.commit) _
  have undoes :
      connection.Issues endpoint (transaction.closing false)
        ((undoWork endpoint transaction).on connection).1
        ((undoWork endpoint transaction).on connection).2 := by
    cases transaction with
    | joined => exact connection.issues_nothing
    | explicit => exact issues_control "ROLLBACK" connection
    | implicit =>
        exact issues_call rfl "ROLLBACK" _ (fun connection => connection.faults.rollback) _
  cases outcome with
  | ok value =>
      refine ⟨_, _, confirms, ?_⟩
      rw [endWork, on_bind]
      rcases (commitWork endpoint transaction).on connection with ⟨ending, after⟩
      cases ending with
      | error failure => rfl
      | ok done => rfl
  | error failure =>
      refine ⟨_, _, undoes, ?_⟩
      rw [endWork, on_bind]
      rcases (undoWork endpoint transaction).on connection with ⟨ending, after⟩
      cases ending with
      | error other => rfl
      | ok done => rfl

/-- Opening a transaction finds out how the work relates to it, and attempts what opens it once. -/
theorem exists_opening
    (endpoint : Endpoint)
    (beginSql : String)
    (connection : Connection) :
    (∃ failure,
        (connection.attributesAt endpoint).transaction = .error failure ∧
          (beginWork endpoint beginSql).on connection = (.error failure, connection)) ∨
      ∃ (transaction : Transaction) (opening : Except Failure Unit) (after : Connection),
        (connection.attributesAt endpoint).transaction = .ok transaction ∧
          connection.Issues endpoint (transaction.opening beginSql) opening after ∧
            (beginWork endpoint beginSql).on connection =
              (opening.map fun _ => transaction, after) := by
  rw [on_beginWork, ConnectionAttributes.transaction]
  cases (connection.attributesAt endpoint).isInTransaction with
  | error failure => exact .inl ⟨failure, rfl, rfl⟩
  | ok isOpen =>
      right
      cases isOpen with
      | true => exact ⟨.joined, .ok (), connection, rfl, connection.issues_nothing, rfl⟩
      | false =>
          dsimp only [Except.map]
          by_cases autocommit : (connection.attributesAt endpoint).isAutocommit = true
          · rw [if_neg Bool.false_ne_true, if_pos autocommit, if_pos autocommit]
            have issues :
                connection.Issues endpoint (Transaction.explicit.opening beginSql)
                  ((control beginSql).on connection).1 ((control beginSql).on connection).2 :=
              issues_control beginSql connection
            refine ⟨.explicit, _, _, rfl, issues, ?_⟩
            rw [on_bind]
            rcases (control beginSql).on connection with ⟨opening, after⟩
            cases opening with
            | error failure => rfl
            | ok done => rfl
          · rw [if_neg Bool.false_ne_true, if_neg autocommit, if_neg autocommit]
            exact ⟨.implicit, .ok (), connection, rfl, connection.issues_nothing, rfl⟩

/-- Every run of a unit of work is bracketed. -/
theorem brackets_unitOfWork
    (endpoint : Endpoint)
    (beginSql : String)
    (body : Database α)
    (connection : Connection) :
    Brackets endpoint beginSql body connection
      ((unitOfWork endpoint beginSql body).on connection) := by
  rw [unitOfWork, on_bind]
  rcases exists_opening endpoint beginSql connection with
    ⟨failure, mode, begun⟩ | ⟨transaction, opening, opened, mode, opens, begun⟩
  · rw [begun]
    exact .unknown mode
  · rw [begun]
    cases opening with
    | error failure => exact .unopened mode opens
    | ok done =>
        -- The body is taken as it is: only whether it succeeds decides what ends the transaction.
        rcases works : body.on opened with ⟨outcome, worked⟩
        rcases exists_ending endpoint transaction outcome worked with
          ⟨ending, after, closes, ended⟩
        have closed :
            (outcomeOf body >>= fun outcome => endWork endpoint transaction outcome).on opened =
              (ending >>= fun _ => outcome, after) := by
          rw [on_bind, outcomeOf, on_ofFunction, works]
          exact ended
        dsimp only [Except.map]
        rw [closed]
        exact .ended mode opens works closes

end Database

/-! ## Events of a whole run -/

/-- The events of a unit of work whose body has events of some kind. -/
inductive Transaction.Trace
    (transaction : Transaction)
    (beginSql : String)
    (lends : Bool)
    (works : List Event → Bool → Prop) :
    List Event → Prop where
  | unopened
      {events : List Event}
      {fault : Fault}
      (opens : Control.Attempt lends (transaction.opening beginSql) events (.error fault)) :
      Trace transaction beginSql lends works events
  | ended
      {before body after : List Event}
      {succeeded : Bool}
      {outcome : Except Fault Unit}
      (opens : Control.Attempt lends (transaction.opening beginSql) before (.ok ()))
      (worked : works body succeeded)
      (closes : Control.Attempt lends (transaction.closing succeeded) after outcome) :
      Trace transaction beginSql lends works (before ++ body ++ after)

theorem Connection.LeadsTo.isLender_eq
    {before after : Connection}
    {events : List Event}
    (leads : before.LeadsTo events after)
    (endpoint : Endpoint) :
    after.isLender endpoint = before.isLender endpoint := by
  rw [Connection.isLender, Connection.isLender, leads.kind]

namespace Database

variable {α : Type} {endpoint : Endpoint} {beginSql : String}

/-- The events of a bracketed run are those of its body between the attempts of its own. -/
theorem Brackets.exists_trace
    {body : Database α}
    {connection : Connection}
    {run : Except Failure α × Connection}
    {works : List Event → Bool → Prop}
    (brackets : Brackets endpoint beginSql body connection run)
    (worked :
      ∀ connection : Connection,
        ∃ events, connection.LeadsTo events (body.on connection).2 ∧
          works events (body.on connection).1.isOk) :
    (∃ failure,
        (connection.attributesAt endpoint).transaction = .error failure ∧
          run = (.error failure, connection)) ∨
      ∃ (transaction : Transaction) (events : List Event),
        (connection.attributesAt endpoint).transaction = .ok transaction ∧
          connection.LeadsTo events run.2 ∧
            transaction.Trace beginSql (connection.isLender endpoint) works events := by
  cases brackets with
  | unknown mode => exact .inl ⟨_, mode, rfl⟩
  | @unopened transaction failure after mode opens =>
      rcases opens with ⟨events, outcome, leads, attempt, failed⟩
      cases outcome with
      | error fault => exact .inr ⟨_, events, mode, leads, .unopened attempt⟩
      | ok done => cases failed
  | @ended transaction opened middle after outcome ending mode opens works closes =>
      rcases opens with ⟨before, opening, leadsBefore, attempt, begun⟩
      rcases closes with ⟨late, closing, leadsAfter, attemptAfter, -⟩
      rcases worked opened with ⟨during, leadsDuring, isWorked⟩
      rw [works] at leadsDuring isWorked
      rw [leadsDuring.isLender_eq, leadsBefore.isLender_eq] at attemptAfter
      cases opening with
      | error fault => cases begun
      | ok done =>
          exact
            .inr ⟨transaction, _, mode, (leadsBefore.trans leadsDuring).trans leadsAfter,
              .ended attempt isWorked attemptAfter⟩

/-! ## Interrupted undoing -/

/-- A failing body decides how its unit of work fails, unless the connection fails to undo it. -/
def Propagates
    (endpoint : Endpoint)
    (beginSql : String)
    (failure : Failure)
    (connection : Connection) :
    Prop :=
  ∀ (other : Failure) (after : Connection),
    (unitOfWork endpoint beginSql (throw failure : Database Unit)).on connection =
        (.error other, after) →
      other = failure ∨ other.IsConnection

/-- A connection on which undoing is interrupted. -/
def interruptedConnection : Connection where
  faults := { rollback := some ⟨.interruption, "KeyboardInterrupt", "stop", "stop"⟩ }

/-- The mistake of a body. -/
def mistake : Failure := .raised ⟨.ordinary, "ValueError", "own", "own"⟩

/-- An interruption while the work is undone takes the place of the failure of the body. -/
theorem not_propagates_of_interruption :
    (interruptedConnection.attributesAt .handle).transaction = .ok .implicit ∧
      ¬ Propagates .handle "BEGIN" mistake interruptedConnection := by
  refine ⟨rfl, ?_⟩
  intro propagates
  rcases propagates _ _ rfl with same | ⟨name, shown, sql, isConnection⟩
  · cases same
  · cases isConnection

end Database

end SqlMapping
