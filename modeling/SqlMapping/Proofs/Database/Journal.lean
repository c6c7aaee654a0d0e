import SqlMapping.Database.Execution

/-!
# What actions leave in the journal

The journal of a connection only grows.  What an action adds to it is known from the calls that
the action makes, whatever the connection answers: an action made of others adds what these add.

The main statements say that acting on a cursor, or on a borrowed connection, executes no other
statements than the action itself, and that it never ends a transaction through the driver.
-/

namespace SqlMapping

namespace Connection

/-- Later states of a connection, when every event in between is allowed. -/
def Adds
    (allowed : Event → Prop)
    (before after : Connection) :
    Prop :=
  ∃ events : List Event,
    after.journal = before.journal ++ events ∧ ∀ event ∈ events, allowed event

variable {allowed : Event → Prop} {before middle after : Connection}

theorem Adds.of_journal_eq
    (same : after.journal = before.journal) :
    before.Adds allowed after := by
  refine ⟨[], ?_, ?_⟩
  · rw [same, List.append_nil]
  · intro event member
    cases member

theorem Adds.refl (connection : Connection) : connection.Adds allowed connection :=
  Adds.of_journal_eq rfl

theorem Adds.trans
    (first : before.Adds allowed middle)
    (second : middle.Adds allowed after) :
    before.Adds allowed after := by
  rcases first with ⟨early, earlyJournal, earlyAllowed⟩
  rcases second with ⟨late, lateJournal, lateAllowed⟩
  refine ⟨early ++ late, ?_, ?_⟩
  · rw [lateJournal, earlyJournal, List.append_assoc]
  · intro event member
    rcases List.mem_append.1 member with isEarly | isLate
    · exact earlyAllowed event isEarly
    · exact lateAllowed event isLate

theorem Adds.mono
    {wider : Event → Prop}
    (widens : ∀ event, allowed event → wider event)
    (adds : before.Adds allowed after) :
    before.Adds wider after := by
  rcases adds with ⟨events, journal, allAllowed⟩
  exact ⟨events, journal, fun event member => widens event (allAllowed event member)⟩

theorem adds_record
    (connection : Connection)
    {call : Call}
    {succeeded : Bool}
    (isAllowed : allowed ⟨call, succeeded⟩) :
    connection.Adds allowed (connection.record call succeeded) := by
  refine ⟨[⟨call, succeeded⟩], rfl, ?_⟩
  intro event member
  rw [List.mem_singleton.1 member]
  exact isAllowed

/-- A call that may raise a fault is recorded either way. -/
theorem adds_attempt
    {α : Type}
    (connection : Connection)
    {call : Call}
    (isAllowed : ∀ succeeded, allowed ⟨call, succeeded⟩)
    (fault : Option Fault)
    (value : α) :
    connection.Adds allowed (connection.attempt call fault value).2 := by
  cases fault with
  | none => exact connection.adds_record (isAllowed true)
  | some fault => exact connection.adds_record (isAllowed false)

theorem adds_openCursor
    (connection : Connection)
    (isAllowed : ∀ number style succeeded, allowed ⟨.openCursor number style, succeeded⟩)
    (prepares : Bool) :
    connection.Adds allowed (Connection.openCursor prepares connection).2 :=
  adds_attempt { connection with cursorCount := connection.cursorCount + 1 }
    (isAllowed _ _) _ _

theorem adds_execute
    (connection : Connection)
    (cursor : Cursor)
    {sql : String}
    {arguments : Option (List Value)}
    (isAllowed : ∀ succeeded, allowed ⟨.execute cursor.number sql arguments, succeeded⟩) :
    connection.Adds allowed (Connection.execute cursor sql arguments connection).2 :=
  adds_attempt { connection with replies := connection.replies.tail } isAllowed _ _

end Connection

namespace Database

variable {α β : Type} {allowed : Event → Prop}

/-- Whatever the connection answers, an action changes it along a relation. -/
def Moves (relation : Connection → Connection → Prop) (action : Database α) : Prop :=
  ∀ connection : Connection, relation connection (action.on connection).2

theorem Moves.bind
    {relation : Connection → Connection → Prop}
    {action : Database α}
    {next : α → Database β}
    (trans :
      ∀ {before middle after : Connection},
        relation before middle → relation middle after → relation before after)
    (first : Moves relation action)
    (second : ∀ value, Moves relation (next value)) :
    Moves relation (action >>= next) := by
  intro connection
  have firstMoves := first connection
  rw [on_bind]
  generalize action.on connection = outcome at firstMoves
  rcases outcome with ⟨result, after⟩
  cases result with
  | error failure => exact firstMoves
  | ok value => exact trans firstMoves (second value after)

/-- Whatever the connection answers, an action adds only allowed events to the journal. -/
def Emits (allowed : Event → Prop) (action : Database α) : Prop :=
  ∀ connection : Connection, connection.Adds allowed (action.on connection).2

theorem Emits.mono
    {wider : Event → Prop}
    {action : Database α}
    (widens : ∀ event, allowed event → wider event)
    (emits : Emits allowed action) :
    Emits wider action :=
  fun connection => (emits connection).mono widens

theorem emits_pure (value : α) : Emits allowed (pure value : Database α) :=
  fun connection => Connection.Adds.refl connection

theorem emits_throw (failure : Failure) : Emits allowed (throw failure : Database α) :=
  fun connection => Connection.Adds.refl connection

theorem emits_require (result : Except Failure α) : Emits allowed (require result) :=
  fun connection => Connection.Adds.refl connection

/-- An action made of two adds what the two add. -/
theorem Emits.bind
    {action : Database α}
    {next : α → Database β}
    (first : Emits allowed action)
    (second : ∀ value, Emits allowed (next value)) :
    Emits allowed (action >>= next) :=
  Moves.bind Connection.Adds.trans first second

theorem emits_driver
    {sql : Option String}
    {call : Connection → Except Fault α × Connection}
    (adds : ∀ connection : Connection, connection.Adds allowed (call connection).2) :
    Emits allowed (driver sql call) :=
  fun connection => adds connection

theorem Emits.followedBy
    {action : Database α}
    {cleanUp : Connection → Connection}
    (emits : Emits allowed action)
    (cleans : ∀ connection : Connection, connection.Adds allowed (cleanUp connection)) :
    Emits allowed (action.followedBy cleanUp) :=
  fun connection => (emits connection).trans (cleans (action.on connection).2)

theorem on_acquire (action : Endpoint → Database α) (connection : Connection) :
    (acquire action).on connection =
      if connection.isPool then
        (((action .borrowed).on connection.borrow).1,
          ((action .borrowed).on connection.borrow).2.giveBack)
      else (action .handle).on connection := rfl

end Database

/-! ## Work within a transaction -/

/-- A call that leaves transactions alone and executes nothing but some statements. -/
def Call.Within (statements : List String) : Call → Prop
  | .execute _ sql _ => sql ∈ statements
  | .commit | .rollback => False
  | .openCursor .. | .fetchOne _ | .fetchMany .. | .fetchAll _ | .closeCursor _ | .borrow
  | .giveBack => True

namespace Database

variable {α β : Type} {statements : List String}

/-- An action that executes nothing but some statements and leaves transactions alone. -/
def Executes (statements : List String) (action : Database α) : Prop :=
  Emits (fun event => event.call.Within statements) action

theorem executes_run
    (cursor : Cursor)
    {sql : String}
    (isStatement : sql ∈ statements)
    (arguments : List Value) :
    Executes statements (run cursor sql arguments) :=
  emits_driver fun connection => connection.adds_execute cursor fun _ => isStatement

/-- Acting on a new cursor executes no further statements. -/
theorem Executes.withCursor
    {action : Cursor → Database α}
    (executes : ∀ cursor, Executes statements (action cursor))
    (dialect : Option String) :
    Executes statements (withCursor dialect action) := by
  apply Emits.bind
  · exact emits_driver fun connection => connection.adds_openCursor (fun _ _ _ => trivial) _
  · intro cursor
    exact (executes cursor).followedBy fun connection => connection.adds_record trivial

theorem executes_fetchOne (cursor : Cursor) (sql : Option String) :
    Executes statements (driver sql cursor.fetchOne) :=
  emits_driver fun connection => connection.adds_attempt (fun _ => trivial) _ _

theorem executes_fetchRow (cursor : Cursor) (sql : String) :
    Executes statements (fetchRow cursor sql) := by
  apply Emits.bind (executes_fetchOne cursor (some sql))
  rintro ⟨row, rest⟩
  cases row with
  | none => exact emits_throw _
  | some row => exact emits_pure _

end Database

end SqlMapping
