import Mathlib.Tactic.SplitIfs
import SqlMapping.Proofs.Database.UnitOfWork

/-!
# Exchanges with a database

A connection has the replies of a database as its script.  An action takes one reply for every
statement that it executes and changes nothing else of the script, so that the replies can be
held against the statements: they are those of a database if each of them is what the database
answers to the statement in its place.

The main statements say what actions give on a working connection with the replies of a database,
from the execution of a single statement up to a unit of work.
-/

namespace SqlMapping

/-- A statement as it is executed, with its arguments unless it is executed without any. -/
abbrev Request := String × Option (List Value)

/-- The statement that a call executes, if it executes one. -/
def Call.request? : Call → Option Request
  | .execute _ sql arguments => some (sql, arguments)
  | _ => none

/-- The statements that were executed in some events, in order. -/
def requestsOf (events : List Event) : List Request :=
  events.filterMap fun event => event.call.request?

theorem requestsOf_append (first second : List Event) :
    requestsOf (first ++ second) = requestsOf first ++ requestsOf second :=
  List.filterMap_append

namespace Connection

/--
The events between two states of a connection: they are recorded, each execution among them took
a reply, and the connection works like before.
-/
structure LeadsTo (before : Connection) (events : List Event) (after : Connection) : Prop where
  journal : after.journal = before.journal ++ events
  replies : after.replies = before.replies.drop (requestsOf events).length
  kind : after.kind = before.kind
  attributes : after.attributes = before.attributes
  faults : after.faults = before.faults
  cursorFaults : after.cursorFaults = before.cursorFaults

variable {before middle after : Connection} {events : List Event}

theorem LeadsTo.refl (connection : Connection) : connection.LeadsTo [] connection where
  journal := (List.append_nil connection.journal).symm
  replies := rfl
  kind := rfl
  attributes := rfl
  faults := rfl
  cursorFaults := rfl

theorem LeadsTo.trans
    {others : List Event}
    (first : before.LeadsTo events middle)
    (second : middle.LeadsTo others after) :
    before.LeadsTo (events ++ others) after := by
  constructor
  · rw [second.journal, first.journal, List.append_assoc]
  · rw [second.replies, first.replies, List.drop_drop, requestsOf_append, List.length_append]
  · rw [second.kind, first.kind]
  · rw [second.attributes, first.attributes]
  · rw [second.faults, first.faults]
  · rw [second.cursorFaults, first.cursorFaults]

/-- A call that executes nothing is recorded and takes no reply. -/
theorem leadsTo_record
    (connection : Connection)
    {call : Call}
    (noRequest : call.request? = none)
    (succeeded : Bool) :
    connection.LeadsTo [⟨call, succeeded⟩] (connection.record call succeeded) := by
  have none : requestsOf [⟨call, succeeded⟩] = [] :=
    List.filterMap_cons_none noRequest
  constructor
  · rfl
  · rw [none]
    rfl
  · rfl
  · rfl
  · rfl
  · rfl

/-- Any other call is recorded with its outcome. -/
theorem attempt_outcome
    {α : Type}
    (connection : Connection)
    {call : Call}
    (noRequest : call.request? = none)
    (fault : Option Fault)
    (value : α) :
    connection.LeadsTo [⟨call, (connection.attempt call fault value).1.isOk⟩]
      (connection.attempt call fault value).2 := by
  cases fault with
  | some fault => exact connection.leadsTo_record noRequest false
  | none => exact connection.leadsTo_record noRequest true

/-- A cursor is opened, or it is not; either way its number is used up. -/
theorem openCursor_outcome (connection : Connection) (prepares : Bool) :
    ∃ (number : Nat) (style : CursorStyle) (outcome : Except Fault Cursor) (after : Connection),
      Connection.openCursor prepares connection = (outcome, after) ∧
        connection.LeadsTo [⟨.openCursor number style, outcome.isOk⟩] after ∧
          ∀ cursor, outcome = .ok cursor → cursor.number = number := by
  rw [openCursor]
  cases connection.faults.openCursor.or (connection.cursorFaults connection.cursorCount) with
  | some fault =>
      refine ⟨_, _, _, _, rfl, ⟨rfl, rfl, rfl, rfl, rfl, rfl⟩, ?_⟩
      intro cursor impossible
      cases impossible
  | none =>
      refine ⟨_, _, _, _, rfl, ⟨rfl, rfl, rfl, rfl, rfl, rfl⟩, ?_⟩
      rintro cursor ⟨⟩
      rfl

/-- A statement is executed on a cursor, or it is refused; either way it takes a reply. -/
theorem execute_outcome
    (connection : Connection)
    (cursor : Cursor)
    (sql : String)
    (arguments : Option (List Value)) :
    ∃ (outcome : Except Fault Cursor) (after : Connection),
      Connection.execute cursor sql arguments connection = (outcome, after) ∧
        connection.LeadsTo [⟨.execute cursor.number sql arguments, outcome.isOk⟩] after ∧
          ∀ next, outcome = .ok next → next.number = cursor.number := by
  rw [execute]
  cases (connection.replies.headD {}).fault with
  | some fault =>
      refine ⟨_, _, rfl, ⟨rfl, List.drop_one.symm, rfl, rfl, rfl, rfl⟩, ?_⟩
      intro next impossible
      cases impossible
  | none =>
      refine ⟨_, _, rfl, ⟨rfl, List.drop_one.symm, rfl, rfl, rfl, rfl⟩, ?_⟩
      rintro next ⟨⟩
      rfl

theorem exists_leadsTo_attempt
    {α : Type}
    (connection : Connection)
    {call : Call}
    (noRequest : call.request? = none)
    (fault : Option Fault)
    (value : α) :
    ∃ events, connection.LeadsTo events (connection.attempt call fault value).2 :=
  ⟨_, connection.attempt_outcome noRequest fault value⟩

theorem exists_leadsTo_openCursor
    (connection : Connection)
    (prepares : Bool) :
    ∃ events, connection.LeadsTo events (Connection.openCursor prepares connection).2 := by
  rcases connection.openCursor_outcome prepares with
    ⟨number, style, outcome, after, opened, leads, -⟩
  rw [opened]
  exact ⟨_, leads⟩

/-- An execution takes the next reply, and fails if that is a fault. -/
theorem leadsTo_execute
    (connection : Connection)
    (cursor : Cursor)
    (sql : String)
    (arguments : Option (List Value)) :
    ∃ succeeded, connection.LeadsTo [⟨.execute cursor.number sql arguments, succeeded⟩]
      (Connection.execute cursor sql arguments connection).2 := by
  rcases connection.execute_outcome cursor sql arguments with ⟨outcome, after, executed, leads, -⟩
  rw [executed]
  exact ⟨_, leads⟩

theorem exists_leadsTo_closeCursor
    (number : Nat)
    (connection : Connection) :
    ∃ events, connection.LeadsTo events (connection.closeCursor number) :=
  ⟨_, connection.leadsTo_record rfl true⟩

theorem exists_leadsTo_commit
    (connection : Connection)
    (endpoint : Endpoint) :
    ∃ events, connection.LeadsTo events (Connection.commit endpoint connection).2 := by
  rw [commit]
  split_ifs
  · exact ⟨[], LeadsTo.refl connection⟩
  · exact connection.exists_leadsTo_attempt rfl _ _

theorem exists_leadsTo_rollback
    (connection : Connection)
    (endpoint : Endpoint) :
    ∃ events, connection.LeadsTo events (Connection.rollback endpoint connection).2 := by
  rw [rollback]
  split_ifs
  · exact ⟨[], LeadsTo.refl connection⟩
  · exact connection.exists_leadsTo_attempt rfl _ _

end Connection

namespace Database

variable {α β : Type}

/-- An action that records its calls and takes a reply for each statement it executes. -/
def Proceeds (action : Database α) : Prop :=
  Moves (fun before after => ∃ events, before.LeadsTo events after) action

theorem proceeds_pure (value : α) : Proceeds (pure value : Database α) :=
  fun connection => ⟨[], Connection.LeadsTo.refl connection⟩

theorem proceeds_throw (failure : Failure) : Proceeds (throw failure : Database α) :=
  fun connection => ⟨[], Connection.LeadsTo.refl connection⟩

theorem proceeds_require (result : Except Failure α) : Proceeds (require result) :=
  fun connection => ⟨[], Connection.LeadsTo.refl connection⟩

theorem proceeds_inspect (function : Connection → α) : Proceeds (inspect function) :=
  fun connection => ⟨[], Connection.LeadsTo.refl connection⟩

theorem Proceeds.bind
    {action : Database α}
    {next : α → Database β}
    (first : Proceeds action)
    (second : ∀ value, Proceeds (next value)) :
    Proceeds (action >>= next) := by
  refine Moves.bind ?_ first second
  rintro before middle after ⟨events, leads⟩ ⟨others, leadsOn⟩
  exact ⟨events ++ others, leads.trans leadsOn⟩

theorem proceeds_driver
    {sql : Option String}
    {call : Connection → Except Fault α × Connection}
    (leads : ∀ connection : Connection, ∃ events, connection.LeadsTo events (call connection).2) :
    Proceeds (driver sql call) :=
  fun connection => leads connection

theorem Proceeds.followedBy
    {action : Database α}
    {cleanUp : Connection → Connection}
    (proceeds : Proceeds action)
    (cleans : ∀ connection : Connection, ∃ events, connection.LeadsTo events (cleanUp connection)) :
    Proceeds (action.followedBy cleanUp) := by
  intro connection
  rcases proceeds connection with ⟨events, leads⟩
  rcases cleans (action.on connection).2 with ⟨others, leadsOn⟩
  exact ⟨events ++ others, leads.trans leadsOn⟩

theorem Proceeds.outcomeOf
    {action : Database α}
    (proceeds : Proceeds action) :
    Proceeds (outcomeOf action) :=
  fun connection => proceeds connection

theorem proceeds_openCursor (sql : Option String) (prepares : Bool) :
    Proceeds (driver sql (Connection.openCursor prepares)) :=
  proceeds_driver fun connection => connection.exists_leadsTo_openCursor prepares

theorem proceeds_execute (cursor : Cursor) (sql : String) (arguments : Option (List Value)) :
    Proceeds (driver (some sql) (Connection.execute cursor sql arguments)) := by
  apply proceeds_driver
  intro connection
  rcases connection.leadsTo_execute cursor sql arguments with ⟨succeeded, leads⟩
  exact ⟨_, leads⟩

theorem proceeds_fetchOne (cursor : Cursor) (sql : Option String) :
    Proceeds (driver sql cursor.fetchOne) :=
  proceeds_driver fun connection => connection.exists_leadsTo_attempt rfl _ _

theorem proceeds_control (sql : String) : Proceeds (control sql) := by
  apply Proceeds.bind (proceeds_openCursor (some sql) false)
  intro cursor
  have executes := proceeds_execute cursor sql none
  apply (executes.followedBy (Connection.exists_leadsTo_closeCursor cursor.number)).bind
  exact fun _ => proceeds_pure _

theorem proceeds_beginWork (endpoint : Endpoint) (beginSql : String) :
    Proceeds (beginWork endpoint beginSql) := by
  apply Proceeds.bind (proceeds_inspect _)
  intro attributes
  apply Proceeds.bind (proceeds_require _)
  intro isOpen
  split_ifs
  · exact proceeds_pure _
  · exact (proceeds_control beginSql).bind fun _ => proceeds_pure _
  · exact proceeds_pure _

theorem proceeds_commitWork (endpoint : Endpoint) (transaction : Transaction) :
    Proceeds (commitWork endpoint transaction) := by
  cases transaction with
  | joined => exact proceeds_pure _
  | explicit => exact proceeds_control "COMMIT"
  | implicit => exact proceeds_driver fun connection => connection.exists_leadsTo_commit endpoint

theorem proceeds_undoWork (endpoint : Endpoint) (transaction : Transaction) :
    Proceeds (undoWork endpoint transaction) := by
  cases transaction with
  | joined => exact proceeds_pure _
  | explicit => exact proceeds_control "ROLLBACK"
  | implicit => exact proceeds_driver fun connection => connection.exists_leadsTo_rollback endpoint

theorem proceeds_endWork
    (endpoint : Endpoint)
    (transaction : Transaction)
    (outcome : Except Failure α) :
    Proceeds (endWork endpoint transaction outcome) := by
  cases outcome with
  | ok value => exact (proceeds_commitWork endpoint transaction).bind fun _ => proceeds_pure _
  | error failure => exact (proceeds_undoWork endpoint transaction).bind fun _ => proceeds_throw _

theorem proceeds_fetchRow (cursor : Cursor) (sql : String) : Proceeds (fetchRow cursor sql) := by
  apply Proceeds.bind (proceeds_fetchOne cursor (some sql))
  rintro ⟨row, rest⟩
  cases row with
  | none => exact proceeds_throw _
  | some row => exact proceeds_pure _

end Database

/-! ## The replies of a database -/

namespace Connection

/-- The statements that were executed since an earlier state of a connection. -/
def asked (before after : Connection) : List Request :=
  requestsOf (after.journal.drop before.journal.length)

/-- A connection that raises no faults, to an object with transactions. -/
structure Serves (connection : Connection) (endpoint : Endpoint) : Prop where
  opens : connection.faults.openCursor = none
  opensEach : ∀ number, connection.cursorFaults number = none
  commits : connection.faults.commit = none
  isOwner : connection.isLender endpoint = false
  tellsMode : ∃ isOpen, connection.attributes.isInTransaction = .ok isOpen

variable {before after : Connection} {events : List Event} {endpoint : Endpoint}

theorem LeadsTo.asked_eq
    (leads : before.LeadsTo events after) :
    before.asked after = requestsOf events := by
  rw [asked, leads.journal, List.drop_left]

theorem LeadsTo.serves
    (leads : before.LeadsTo events after)
    (serves : before.Serves endpoint) :
    after.Serves endpoint := by
  constructor
  case opens =>
    rw [leads.faults]
    exact serves.opens
  case opensEach =>
    rw [leads.cursorFaults]
    exact serves.opensEach
  case commits =>
    rw [leads.faults]
    exact serves.commits
  case isOwner =>
    rw [isLender, leads.kind]
    exact serves.isOwner
  case tellsMode =>
    rw [leads.attributes]
    exact serves.tellsMode

end Connection

namespace Database

variable {α β : Type} {answer : Request → Reply} {endpoint : Endpoint}

/-- The replies to come are those that a database gives to the statements of an action. -/
def IsAnswered
    (answer : Request → Reply)
    (action : Database α)
    (connection : Connection) :
    Prop :=
  (connection.asked (action.on connection).2).map answer <+: connection.replies

/-- On a connection that serves with the replies of a database, an action gives a result. -/
structure Gives
    (answer : Request → Reply)
    (endpoint : Endpoint)
    (action : Database α)
    (result : α → Prop) :
    Prop where
  proceeds : Proceeds action
  succeeds :
    ∀ connection : Connection,
      connection.Serves endpoint →
        IsAnswered answer action connection →
          ∃ (value : α) (after : Connection),
            action.on connection = (.ok value, after) ∧ result value

/-- The replies to the first of two exchanges come before those to the second. -/
theorem prefix_of_append
    {before middle : Connection}
    {early late : List Event}
    (leads : before.LeadsTo early middle)
    (answered : (requestsOf (early ++ late)).map answer <+: before.replies) :
    (requestsOf early).map answer <+: before.replies ∧
      (requestsOf late).map answer <+: middle.replies := by
  rw [requestsOf_append, List.map_append] at answered
  constructor
  · exact (List.prefix_append _ _).trans answered
  · rcases answered with ⟨others, replies⟩
    refine ⟨others, ?_⟩
    rw [leads.replies, ← replies, List.append_assoc]
    symm
    apply List.drop_left'
    rw [List.length_map]

theorem gives_pure
    {result : α → Prop}
    {value : α}
    (isResult : result value) :
    Gives answer endpoint (pure value : Database α) result where
  proceeds := proceeds_pure value
  succeeds connection _ _ := ⟨value, connection, rfl, isResult⟩

theorem gives_require
    {result : α → Prop}
    {outcome : Except Failure α}
    {value : α}
    (isOutcome : outcome = .ok value)
    (isResult : result value) :
    Gives answer endpoint (require outcome) result where
  proceeds := proceeds_require outcome
  succeeds connection _ _ := ⟨value, connection, by rw [isOutcome]; rfl, isResult⟩

theorem Gives.mono
    {action : Database α}
    {result wider : α → Prop}
    (widens : ∀ value, result value → wider value)
    (gives : Gives answer endpoint action result) :
    Gives answer endpoint action wider := by
  constructor
  case proceeds => exact gives.proceeds
  case succeeds =>
    intro connection serves answered
    rcases gives.succeeds connection serves answered with ⟨value, after, given, isResult⟩
    exact ⟨value, after, given, widens value isResult⟩

/-- An action gives what its second part gives after what its first part gave. -/
theorem Gives.bind
    {action : Database α}
    {next : α → Database β}
    {given : α → Prop}
    {result : β → Prop}
    (first : Gives answer endpoint action given)
    (proceeds : ∀ value, Proceeds (next value))
    (second : ∀ value, given value → Gives answer endpoint (next value) result) :
    Gives answer endpoint (action >>= next) result := by
  constructor
  case proceeds => exact first.proceeds.bind proceeds
  case succeeds =>
    intro connection serves answered
    rcases first.proceeds connection with ⟨early, leads⟩
    have succeeds := first.succeeds connection serves
    rw [IsAnswered, on_bind] at answered
    rw [IsAnswered, leads.asked_eq] at succeeds
    rw [on_bind]
    generalize action.on connection = outcome at leads succeeds answered
    rcases outcome with ⟨outcome, middle⟩
    cases outcome with
    -- The first part cannot fail, for the replies to it are those of the database.
    | error failure =>
        rw [leads.asked_eq] at answered
        rcases succeeds answered with ⟨value, after, impossible, -⟩
        cases impossible
    | ok value =>
        -- Only now is it known that the replies to the second part follow those to the first.
        rcases proceeds value middle with ⟨late, leadsOn⟩
        rw [(leads.trans leadsOn).asked_eq] at answered
        rcases prefix_of_append leads answered with ⟨answeredFirst, answeredSecond⟩
        rcases succeeds answeredFirst with ⟨_, _, equal, isGiven⟩
        cases equal
        apply (second value isGiven).succeeds middle (leads.serves serves)
        rw [IsAnswered, leadsOn.asked_eq]
        exact answeredSecond

theorem Gives.followedBy
    {action : Database α}
    {cleanUp : Connection → Connection}
    {result : α → Prop}
    (gives : Gives answer endpoint action result)
    (cleans : ∀ connection : Connection, ∃ events, connection.LeadsTo events (cleanUp connection)) :
    Gives answer endpoint (action.followedBy cleanUp) result := by
  constructor
  case proceeds => exact gives.proceeds.followedBy cleans
  case succeeds =>
    intro connection serves answered
    rcases gives.proceeds connection with ⟨early, leads⟩
    rcases cleans (action.on connection).2 with ⟨late, leadsOn⟩
    have answeredAll :
        (requestsOf (early ++ late)).map answer <+: connection.replies := by
      rw [← (leads.trans leadsOn).asked_eq]
      exact answered
    have answeredFirst : IsAnswered answer action connection := by
      rw [IsAnswered, leads.asked_eq]
      exact (prefix_of_append leads answeredAll).1
    rcases gives.succeeds connection serves answeredFirst with ⟨value, after, given, isResult⟩
    refine ⟨value, cleanUp after, ?_, isResult⟩
    show ((action.on connection).1, cleanUp (action.on connection).2) = _
    rw [given]

theorem Gives.outcomeOf
    {action : Database α}
    {result : α → Prop}
    (gives : Gives answer endpoint action result) :
    Gives answer endpoint (outcomeOf action) fun outcome =>
      ∃ value, outcome = .ok value ∧ result value := by
  constructor
  case proceeds => exact gives.proceeds.outcomeOf
  case succeeds =>
    intro connection serves answered
    rcases gives.succeeds connection serves answered with ⟨value, after, given, isResult⟩
    refine ⟨.ok value, after, ?_, value, rfl, isResult⟩
    show (Except.ok (action.on connection).1, (action.on connection).2) = _
    rw [given]

/-- A call gives what it gives, if it raises no fault. -/
theorem gives_driver
    {sql : Option String}
    {call : Connection → Except Fault α × Connection}
    {result : α → Prop}
    (proceeds : Proceeds (driver sql call))
    (succeeds :
      ∀ connection : Connection,
        connection.Serves endpoint →
          IsAnswered answer (driver sql call) connection →
            ∃ value, (call connection).1 = .ok value ∧ result value) :
    Gives answer endpoint (driver sql call) result := by
  constructor
  case proceeds => exact proceeds
  case succeeds =>
    intro connection serves answered
    rcases succeeds connection serves answered with ⟨value, success, isResult⟩
    refine ⟨value, (call connection).2, ?_, isResult⟩
    show ((call connection).1.mapError (Failure.ofFault sql), (call connection).2) = _
    rw [success]
    rfl

theorem gives_openCursor (sql : Option String) (prepares : Bool) :
    Gives answer endpoint (driver sql (Connection.openCursor prepares)) fun _ => True := by
  apply gives_driver (proceeds_openCursor sql prepares)
  intro connection serves _
  refine ⟨{ number := connection.cursorCount }, ?_, trivial⟩
  rw [Connection.openCursor, serves.opens, serves.opensEach]
  rfl

/-- A statement that a database answers without a fault gives a cursor with the answer. -/
theorem gives_execute
    (cursor : Cursor)
    {sql : String}
    {arguments : Option (List Value)}
    (noFault : (answer (sql, arguments)).fault = none) :
    Gives answer endpoint (driver (some sql) (Connection.execute cursor sql arguments))
      fun next => next.reply = answer (sql, arguments) := by
  apply gives_driver (proceeds_execute cursor sql arguments)
  intro connection _ answered
  rcases connection.leadsTo_execute cursor sql arguments with ⟨succeeded, leads⟩
  have asked :
      connection.asked
          ((driver (some sql) (Connection.execute cursor sql arguments)).on connection).2 =
        [(sql, arguments)] :=
    leads.asked_eq
  rw [IsAnswered, asked] at answered
  rcases answered with ⟨others, replies⟩
  have head : connection.replies.headD {} = answer (sql, arguments) := by
    rw [← replies]
    rfl
  refine ⟨{ cursor with reply := answer (sql, arguments), fetches := 0 }, ?_, rfl⟩
  rw [Connection.execute, head, noFault]
  rfl

theorem gives_fetchOne
    {cursor : Cursor}
    (noFault : cursor.reply.fetchFault = none)
    (sql : Option String) :
    Gives answer endpoint (driver sql cursor.fetchOne) fun found =>
      found.1 = cursor.reply.rows.head? := by
  apply gives_driver (proceeds_fetchOne cursor sql)
  intro connection _ _
  refine ⟨(cursor.reply.rows.head?, cursor.advance 1), ?_, rfl⟩
  rw [Cursor.fetchOne, Cursor.fetchFault?, noFault]
  rfl

theorem gives_fetchRow
    {cursor : Cursor}
    {row : List Value}
    (noFault : cursor.reply.fetchFault = none)
    (isRow : cursor.reply.rows.head? = some row)
    (sql : String) :
    Gives answer endpoint (fetchRow cursor sql) fun found =>
      found.1 = namedRow (columnNames cursor.reply) row := by
  refine Gives.bind (gives_fetchOne noFault (some sql)) ?_ ?_
  · rintro ⟨found, rest⟩
    cases found with
    | none => exact proceeds_throw _
    | some row => exact proceeds_pure _
  · rintro ⟨found, rest⟩ isFound
    dsimp only at isFound
    rw [isRow] at isFound
    subst isFound
    exact gives_pure rfl

theorem Gives.withCursor
    {action : Cursor → Database α}
    {result : α → Prop}
    (gives : ∀ cursor, Gives answer endpoint (action cursor) result)
    (dialect : Option String) :
    Gives answer endpoint (withCursor dialect action) result := by
  have closed (cursor : Cursor) :=
    (gives cursor).followedBy (Connection.exists_leadsTo_closeCursor cursor.number)
  refine Gives.bind (gives_openCursor none _) ?_ ?_
  · exact fun cursor => (closed cursor).proceeds
  · exact fun cursor _ => closed cursor

/-! ## Units of work -/

theorem gives_control
    {sql : String}
    (noFault : (answer (sql, none)).fault = none) :
    Gives answer endpoint (control sql) fun _ => True := by
  have executes (cursor : Cursor) :
      Gives answer endpoint
        ((driver (some sql) (Connection.execute cursor sql none)).followedBy
          (Connection.closeCursor cursor.number))
        fun next => next.reply = answer (sql, none) :=
    (gives_execute cursor noFault).followedBy
      (Connection.exists_leadsTo_closeCursor cursor.number)
  refine Gives.bind (gives_openCursor (some sql) false) ?_ ?_
  · exact fun cursor => (executes cursor).proceeds.bind fun _ => proceeds_pure _
  · exact fun cursor _ =>
      (executes cursor).bind (fun _ => proceeds_pure _) fun _ _ => gives_pure trivial

theorem gives_beginWork
    {beginSql : String}
    (begins : (answer (beginSql, none)).fault = none) :
    Gives answer endpoint (beginWork endpoint beginSql) fun _ => True := by
  constructor
  case proceeds => exact proceeds_beginWork endpoint beginSql
  case succeeds =>
    intro connection serves answered
    rcases serves.tellsMode with ⟨isOpen, mode⟩
    have shown : connection.attributesAt endpoint = connection.attributes := by
      rw [Connection.attributesAt, serves.isOwner, if_neg Bool.false_ne_true]
    rw [IsAnswered, on_beginWork, shown, mode] at answered
    rw [on_beginWork, shown, mode]
    cases isOpen with
    | true => exact ⟨.joined, connection, rfl, trivial⟩
    | false =>
        dsimp only at answered ⊢
        split_ifs at answered ⊢ with autocommit
        · have opens :
              Gives answer endpoint (control beginSql >>= fun _ => pure Transaction.explicit)
                fun _ => True :=
            (gives_control begins).bind (fun _ => proceeds_pure _) fun _ _ => gives_pure trivial
          exact opens.succeeds connection serves answered
        · exact ⟨.implicit, connection, rfl, trivial⟩

theorem gives_commitWork
    (confirms : (answer ("COMMIT", none)).fault = none)
    (transaction : Transaction) :
    Gives answer endpoint (commitWork endpoint transaction) fun _ => True := by
  cases transaction with
  | joined => exact gives_pure trivial
  | explicit => exact gives_control confirms
  | implicit =>
      apply gives_driver (proceeds_commitWork endpoint .implicit)
      intro connection serves _
      refine ⟨(), ?_, trivial⟩
      show (Connection.commit endpoint connection).1 = .ok ()
      rw [Connection.commit, serves.isOwner, if_neg Bool.false_ne_true, serves.commits]
      rfl

/-- A unit of work gives what its body gives, if its transaction can be opened and confirmed. -/
theorem Gives.unitOfWork
    {body : Database α}
    {result : α → Prop}
    {beginSql : String}
    (gives : Gives answer endpoint body result)
    (begins : (answer (beginSql, none)).fault = none)
    (confirms : (answer ("COMMIT", none)).fault = none) :
    Gives answer endpoint (unitOfWork endpoint beginSql body) result := by
  refine Gives.bind (gives_beginWork begins) ?_ ?_
  · intro transaction
    exact gives.proceeds.outcomeOf.bind (proceeds_endWork endpoint transaction)
  · intro transaction _
    refine Gives.bind gives.outcomeOf (proceeds_endWork endpoint transaction) ?_
    rintro _ ⟨value, rfl, isResult⟩
    refine Gives.bind (gives_commitWork confirms transaction) (fun _ => proceeds_pure _) ?_
    exact fun _ _ => gives_pure isResult

/-- An action that is done on the connection itself, or on a borrowed one, gives what it gives. -/
theorem exists_on_acquire
    {action : Endpoint → Database α}
    {result : α → Prop}
    (gives : ∀ endpoint, Gives answer endpoint (action endpoint) result)
    {connection : Connection}
    (serves : connection.Serves connection.workEndpoint)
    (answered : IsAnswered answer (acquire action) connection) :
    ∃ (value : α) (after : Connection),
      (acquire action).on connection = (.ok value, after) ∧ result value := by
  rw [IsAnswered, on_acquire] at answered
  rw [on_acquire]
  rw [Connection.workEndpoint] at serves
  split_ifs at serves answered ⊢
  · have borrows : connection.LeadsTo [⟨.borrow, true⟩] connection.borrow :=
      connection.leadsTo_record rfl true
    have returns (connection : Connection) :
        ∃ events, connection.LeadsTo events connection.giveBack :=
      ⟨_, connection.leadsTo_record rfl true⟩
    have lent := (gives .borrowed).followedBy returns
    rcases lent.proceeds connection.borrow with ⟨events, leads⟩
    apply lent.succeeds connection.borrow (borrows.serves serves)
    have answeredAll :
        (requestsOf ([⟨.borrow, true⟩] ++ events)).map answer <+: connection.replies := by
      rw [← (borrows.trans leads).asked_eq]
      exact answered
    rw [IsAnswered, leads.asked_eq]
    exact (prefix_of_append borrows answeredAll).2
  · exact (gives .handle).succeeds connection serves answered

end Database

end SqlMapping
