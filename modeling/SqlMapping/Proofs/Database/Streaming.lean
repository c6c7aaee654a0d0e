import SqlMapping.Database.Stream
import SqlMapping.Proofs.Database.Release

/-!
# What streams hold

A stream holds its cursor, and the connection that it was opened on if that was borrowed, exactly
while it is reading.  It stops reading with the first call that gives no row, whatever the reason,
and when it is closed.

The main statements say what a call of a stream changes of what is held, what any calls of a new
stream hold altogether, and that reading all rows of a stream leaves nothing held.
-/

namespace SqlMapping

open Connection (Carries Owns Yields)

/-- What a stream in a state holds of a handle. -/
def StreamState.holdings (isPool : Bool) : StreamState → Holdings
  | .reading cursor _ _ _ => (Holdings.access isPool).opening cursor.number
  | .waiting | .ended => .empty

/-- Whatever fetching raises in a state is ordinary. -/
def StreamState.IsOrdinary : StreamState → Prop
  | .reading cursor _ _ _ => cursor.reply.IsOrdinary
  | .waiting | .ended => True

namespace Connection

variable {before after : Connection} {events : List Event}

theorem LeadsTo.isPool_eq (leads : before.LeadsTo events after) : after.isPool = before.isPool := by
  rw [isPool, isPool, leads.kind]

theorem replies_attempt
    {α : Type}
    (connection : Connection)
    (call : Call)
    (fault : Option Fault)
    (value : α) :
    (connection.attempt call fault value).2.replies = connection.replies := by
  cases fault with
  | none => rfl
  | some fault => rfl

end Connection

namespace Stream

variable {α : Type} {connection : Connection}

/-! ## Releasing and starting -/

/-- Whatever led to it, a release leaves nothing held. -/
theorem yields_release
    {β : Type}
    {before after : Connection}
    {held : Holdings}
    {number : Nat}
    {result : Except Failure β}
    {gives : β → Prop}
    (yields :
      before.Yields held (result, after) ((Holdings.access after.isPool).opening number) gives) :
    before.Yields held (result, release number after) .empty gives := by
  have closed :
      before.Yields held (result, after.closeCursor number) (.access after.isPool) gives := by
    refine yields.trans Connection.carries_closeCursor ?_
    intro event member
    rw [List.mem_singleton.1 member]
  rw [release]
  split_ifs with isPool
  · rw [isPool] at closed
    refine closed.trans (fun _ => Database.carries_giveBack _) ?_
    intro event member
    rw [List.mem_singleton.1 member]
  · rw [Bool.eq_false_iff.2 isPool] at closed
    exact closed

/-- Opening the cursor of a stream fails with nothing held, or it gives a cursor that is held. -/
theorem openOn_cases
    (isOrdinary : connection.IsOrdinary)
    (request : StreamRequest) :
    (∃ (failure : Failure) (after : Connection),
        openOn request connection = (.error failure, after) ∧
          connection.Yields .empty ((.error failure : Except Failure Cursor), after) .empty
            fun _ => True) ∨
      ∃ (cursor : Cursor) (after : Connection) (events : List Event),
        openOn request connection = (.ok cursor, after) ∧
          connection.Carries .empty events after
            ((Holdings.access connection.isPool).opening cursor.number) ∧
          (∀ event ∈ events, event.succeeded = true) := by
  have succeeds (call : Call) : ∀ event ∈ [Event.mk call true], event.succeeded = true := by
    intro event member
    rw [List.mem_singleton.1 member]
  rw [openOn]
  split_ifs with isPool
  · have borrows := Database.carries_borrow connection
    rcases Database.openCursor_cases (borrows.leads.isOrdinary isOrdinary) borrows.owns none _ with
      ⟨failure, after, opened, yields⟩ | ⟨cursor, after, events, opened, carries, allSucceed⟩
    · left
      rw [Database.openCursor, opened]
      refine ⟨failure, _, rfl, borrows.trans_yields (succeeds _) ?_⟩
      exact yields.trans (fun _ => Database.carries_giveBack after) (succeeds _)
    · right
      rw [Database.openCursor, opened, isPool]
      refine ⟨cursor, after, _, rfl, borrows.trans carries, ?_⟩
      intro event member
      rcases List.mem_append.1 member with early | late
      · exact succeeds _ event early
      · exact allSucceed event late
  · rw [Bool.eq_false_iff.2 isPool, Database.openCursor]
    exact Database.openCursor_cases isOrdinary connection.owns_empty none _

theorem replies_openOn (request : StreamRequest) (connection : Connection) :
    (openOn request connection).2.replies = connection.replies := by
  have opens (connection : Connection) :
      ((Database.openCursor request.dialect).on connection).2.replies = connection.replies :=
    Connection.replies_attempt _ _ _ _
  rw [openOn]
  split_ifs
  · have opened := opens connection.borrow
    generalize (Database.openCursor request.dialect).on connection.borrow = outcome at opened
    rcases outcome with ⟨result, after⟩
    cases result with
    | error failure => exact opened
    | ok cursor => exact opened
  · exact opens connection

/-- Starting a stream fails with nothing held, or the stream reads the next reply from then on. -/
theorem start_cases
    (isOrdinary : connection.IsOrdinary)
    (request : StreamRequest)
    (configured : Int) :
    (∃ (failure : Failure) (after : Connection),
        start request configured connection = (.error failure, after) ∧
          connection.Yields .empty ((.error failure : Except Failure Cursor), after) .empty
            fun _ => True) ∨
      ∃ (cursor : Cursor) (names : List String) (batch : Int) (after : Connection)
        (events : List Event),
        start request configured connection = (.ok (.reading cursor names batch []), after) ∧
          connection.Carries .empty events after
            ((Holdings.access connection.isPool).opening cursor.number) ∧
          (∀ event ∈ events, event.succeeded = true) ∧
          cursor.reply.IsOrdinary ∧
          cursor.reply = connection.replies.headD {} := by
  have replies := replies_openOn request connection
  rw [start]
  rcases openOn_cases isOrdinary request with
    ⟨failure, after, opened, yields⟩ | ⟨cursor, after, events, opened, carries, allSucceed⟩
  · left
    rw [opened]
    exact ⟨failure, after, rfl, yields⟩
  · rw [opened] at replies
    rw [opened]
    dsimp only
    have executes :=
      Database.takes_execute List.mem_cons_self request.sql (some request.arguments) after
        (carries.leads.isOrdinary isOrdinary) carries.owns
    have whole := carries.trans_yields allSucceed executes
    have answered :
        ∀ executed last,
          (Database.run cursor request.sql request.arguments).on after = (.ok executed, last) →
            executed.reply = after.replies.headD {} := by
      intro executed last ran
      have fetched :
          (Connection.execute cursor request.sql (some request.arguments) after).1.mapError
              (Failure.ofFault (some request.sql)) =
            .ok executed := congrArg Prod.fst ran
      rw [Connection.execute] at fetched
      cases fault : (after.replies.headD {}).fault with
      | some fault =>
          rw [fault] at fetched
          cases fetched
      | none =>
          rw [fault] at fetched
          cases fetched
          rfl
    change
      connection.Yields .empty ((Database.run cursor request.sql request.arguments).on after) _ _
      at whole
    generalize (Database.run cursor request.sql request.arguments).on after = outcome
      at whole answered
    rcases outcome with ⟨result, last⟩
    cases result with
    | error failure =>
        left
        refine ⟨failure, _, rfl, yields_release ?_⟩
        rcases whole with ⟨⟨others, carriesAll, surfaces⟩, -⟩
        rw [carriesAll.leads.isPool_eq]
        exact ⟨⟨others, carriesAll, surfaces⟩, fun _ _ => trivial⟩
    | ok executed =>
        right
        rcases whole.2 executed rfl with ⟨sameNumber, replyOrdinary⟩
        rcases whole.exists_carries with ⟨others, carriesAll, othersSucceed⟩
        refine ⟨executed, _, _, last, others, rfl, ?_, othersSucceed, replyOrdinary, ?_⟩
        · rw [sameNumber]
          exact carriesAll
        · rw [answered executed last rfl, replies]

/-! ## One call -/

/-- A step of a stream: what it holds afterwards, and that it has ended unless it gave a row. -/
structure Advances (before : Connection) (held : Holdings) (step : Step α) : Prop where
  yields :
    before.Yields held (step.result, step.connection) (step.stream.state.holdings before.isPool)
      fun _ => True
  isOrdinary : step.stream.state.IsOrdinary
  ends : (∀ value, step.result ≠ .ok (some value)) → step.stream.state = .ended

theorem Advances.of_carries
    {before after : Connection}
    {held kept : Holdings}
    {events : List Event}
    {step : Step α}
    (carries : before.Carries held events after kept)
    (allSucceed : ∀ event ∈ events, event.succeeded = true)
    (advances : Advances after kept step) :
    Advances before held step := by
  constructor
  case yields =>
    apply carries.trans_yields allSucceed
    rw [← carries.leads.isPool_eq]
    exact advances.yields
  case isOrdinary => exact advances.isOrdinary
  case ends => exact advances.ends

/-- A step that ends the stream and releases what it held. -/
theorem advances_release
    {before after : Connection}
    {held : Holdings}
    {number : Nat}
    (stream : Stream α)
    {result : Except Failure (Option α)}
    (yields :
      before.Yields held (result, after) ((Holdings.access before.isPool).opening number)
        fun _ => True) :
    Advances before held ⟨result, { stream with state := .ended }, release number after⟩ := by
  constructor
  case yields =>
    apply yields_release
    rcases yields with ⟨⟨events, carries, surfaces⟩, -⟩
    rw [carries.leads.isPool_eq]
    exact ⟨⟨events, carries, surfaces⟩, fun _ _ => trivial⟩
  case isOrdinary => trivial
  case ends => exact fun _ => rfl

variable {cursor : Cursor} {names : List String} {batch : Int}

theorem advances_yieldRow
    (stream : Stream α)
    (owns : connection.Owns ((Holdings.access connection.isPool).opening cursor.number))
    (isOrdinary : cursor.reply.IsOrdinary)
    (row : List Value)
    (rest : List (List Value)) :
    Advances connection ((Holdings.access connection.isPool).opening cursor.number)
      (stream.yieldRow cursor names batch row rest connection) := by
  rw [yieldRow]
  cases Database.decodeRow stream.decoder stream.request.sql names row with
  | error failure =>
      exact advances_release stream (Connection.yields_of_result owns fun _ _ => trivial)
  | ok value =>
      constructor
      case yields => exact Connection.yields_of_result owns fun _ _ => trivial
      case isOrdinary => exact isOrdinary
      case ends => exact fun noRow => absurd rfl (noRow value)

theorem advances_nextOf
    (stream : Stream α)
    (ordinary : connection.IsOrdinary)
    (owns : connection.Owns ((Holdings.access connection.isPool).opening cursor.number))
    (isOrdinary : cursor.reply.IsOrdinary)
    (rows : List (List Value)) :
    Advances connection ((Holdings.access connection.isPool).opening cursor.number)
      (stream.nextOf cursor names batch rows connection) := by
  cases rows with
  | cons row rest => exact advances_yieldRow stream owns isOrdinary row rest
  | nil =>
      rw [nextOf]
      have fetches :=
        Database.takes_fetchMany List.mem_cons_self isOrdinary (some stream.request.sql) batch
          connection ordinary owns
      generalize
        (Database.driver (some stream.request.sql) (cursor.fetchMany batch)).on connection = outcome
        at fetches
      rcases outcome with ⟨result, after⟩
      cases result with
      | error failure => exact advances_release stream fetches.error
      | ok fetched =>
          rcases fetched with ⟨fetchedRows, advanced⟩
          rcases fetches.2 _ rfl with ⟨sameNumber, advancedOrdinary⟩
          rcases fetches.exists_carries with ⟨events, carries, allSucceed⟩
          dsimp only at sameNumber advancedOrdinary
          rw [← sameNumber] at carries ⊢
          apply Advances.of_carries carries allSucceed
          rw [← carries.leads.isPool_eq]
          have ownsAfter := carries.owns
          rw [← carries.leads.isPool_eq] at ownsAfter
          cases fetchedRows with
          | nil =>
              exact
                advances_release stream (Connection.yields_of_result ownsAfter fun _ _ => trivial)
          | cons row rest => exact advances_yieldRow stream ownsAfter advancedOrdinary row rest

/-- Every call of a stream for its next row holds what its new state holds. -/
theorem advances_next
    (stream : Stream α)
    (configured : Int)
    (ordinary : connection.IsOrdinary)
    (owns : connection.Owns (stream.state.holdings connection.isPool))
    (isOrdinary : stream.state.IsOrdinary) :
    Advances connection (stream.state.holdings connection.isPool)
      (stream.next configured connection) := by
  rw [next]
  cases state : stream.state with
  | ended =>
      constructor
      case yields =>
        rw [state]
        exact Connection.yields_of_result connection.owns_empty fun _ _ => trivial
      case isOrdinary =>
        rw [state]
        trivial
      case ends => exact fun _ => state
  | reading cursor names batch rows =>
      rw [state] at owns isOrdinary
      exact advances_nextOf stream ordinary owns isOrdinary rows
  | waiting =>
      rcases start_cases ordinary stream.request configured with
        ⟨failure, after, started, yields⟩ |
          ⟨cursor, names, batch, after, events, started, carries, allSucceed, replyOrdinary, -⟩
      · rw [started]
        constructor
        case yields => exact yields.error
        case isOrdinary => trivial
        case ends => exact fun _ => rfl
      · rw [started]
        apply Advances.of_carries carries allSucceed
        have ownsAfter := carries.owns
        rw [← carries.leads.isPool_eq] at ownsAfter ⊢
        exact
          advances_nextOf stream (carries.leads.isOrdinary ordinary) ownsAfter replyOrdinary []

/-- Closing a stream releases whatever it holds. -/
theorem yields_close
    (stream : Stream α)
    (owns : connection.Owns (stream.state.holdings connection.isPool)) :
    connection.Yields (stream.state.holdings connection.isPool)
      (Except.ok (), (stream.close connection).2) .empty fun _ => True := by
  rw [close]
  cases state : stream.state with
  | waiting => exact Connection.yields_of_result connection.owns_empty fun _ _ => trivial
  | ended => exact Connection.yields_of_result connection.owns_empty fun _ _ => trivial
  | reading cursor names batch rows =>
      rw [state] at owns
      exact yields_release (Connection.yields_of_result owns fun _ _ => trivial)

theorem state_close (stream : Stream α) (connection : Connection) :
    (stream.close connection).1.state = .ended := by
  rw [close]
  cases stream.state with
  | reading cursor names batch rows => rfl
  | waiting => rfl
  | ended => rfl

/-! ## Any calls -/

/-- A call of a stream. -/
inductive StreamCall where
  | next
  | close

/-- What a call makes of a stream and its connection. -/
def afterCall (configured : Int) (used : Stream α × Connection) :
    StreamCall → Stream α × Connection
  | .next =>
    ((used.1.next configured used.2).stream, (used.1.next configured used.2).connection)
  | .close => used.1.close used.2

/-- What some calls make of a stream and its connection. -/
def afterCalls (configured : Int) (calls : List StreamCall) (used : Stream α × Connection) :
    Stream α × Connection :=
  calls.foldl (afterCall configured) used

/-- Whatever calls there were, the stream holds what its state holds. -/
theorem exists_carries_afterCalls
    (configured : Int)
    (calls : List StreamCall)
    (stream : Stream α)
    (ordinary : connection.IsOrdinary)
    (owns : connection.Owns (stream.state.holdings connection.isPool))
    (isOrdinary : stream.state.IsOrdinary) :
    ∃ events,
      connection.Carries (stream.state.holdings connection.isPool) events
          (afterCalls configured calls (stream, connection)).2
          ((afterCalls configured calls (stream, connection)).1.state.holdings
            connection.isPool) ∧
        (afterCalls configured calls (stream, connection)).1.state.IsOrdinary := by
  induction calls generalizing stream connection with
  | nil => exact ⟨[], Carries.refl owns, isOrdinary⟩
  | cons call rest ih =>
      have one :
          ∃ events,
            connection.Carries (stream.state.holdings connection.isPool) events
                (afterCall configured (stream, connection) call).2
                ((afterCall configured (stream, connection) call).1.state.holdings
                  connection.isPool) ∧
              (afterCall configured (stream, connection) call).1.state.IsOrdinary := by
        cases call with
        | next =>
            have advances := advances_next stream configured ordinary owns isOrdinary
            rcases advances.yields with ⟨⟨events, carries, -⟩, -⟩
            exact ⟨events, carries, advances.isOrdinary⟩
        | close =>
            rcases (yields_close stream owns).exists_carries with ⟨events, carries, -⟩
            refine ⟨events, ?_, ?_⟩
            · rw [afterCall, state_close]
              exact carries
            · rw [afterCall, state_close]
              trivial
      rw [afterCalls, List.foldl_cons, ← afterCalls]
      generalize afterCall configured (stream, connection) call = used at one
      rcases used with ⟨used, after⟩
      rcases one with ⟨early, carries, ordinaryUsed⟩
      have samePool := carries.leads.isPool_eq
      have ownsAfter := carries.owns
      dsimp only at carries ownsAfter ordinaryUsed samePool
      rw [← samePool] at ownsAfter
      rcases ih used (carries.leads.isOrdinary ordinary) ownsAfter ordinaryUsed with
        ⟨late, carriesOn, ordinaryLast⟩
      rw [samePool] at carriesOn
      exact ⟨early ++ late, carries.trans carriesOn, ordinaryLast⟩

/-! ## All rows -/

theorem remaining_yieldRow
    {stream : Stream α}
    {row : List Value}
    {rest : List (List Value)}
    {value : α}
    (gives : (stream.yieldRow cursor names batch row rest connection).result = .ok (some value)) :
    (stream.yieldRow cursor names batch row rest connection).stream.remaining
        (stream.yieldRow cursor names batch row rest connection).connection =
      rest.length + cursor.reply.rows.length := by
  rw [yieldRow] at gives ⊢
  cases decoded : Database.decodeRow stream.decoder stream.request.sql names row with
  | error failure =>
      rw [decoded] at gives
      cases gives
  | ok value => rfl

/-- A row that is given was among those that were left. -/
theorem remaining_nextOf_lt
    {stream : Stream α}
    {rows : List (List Value)}
    {value : α}
    (gives : (stream.nextOf cursor names batch rows connection).result = .ok (some value)) :
    (stream.nextOf cursor names batch rows connection).stream.remaining
        (stream.nextOf cursor names batch rows connection).connection <
      rows.length + cursor.reply.rows.length := by
  cases rows with
  | cons row rest =>
      have left := remaining_yieldRow gives
      rw [nextOf, left, List.length_cons]
      omega
  | nil =>
      rw [nextOf] at gives ⊢
      have fetched :
          (Database.driver (some stream.request.sql) (cursor.fetchMany batch)).on connection =
            ((connection.attempt (.fetchMany cursor.number batch) cursor.fetchFault?
                (cursor.reply.rows.take batch.toNat, cursor.advance batch.toNat)).1.mapError
                (Failure.ofFault (some stream.request.sql)),
              (connection.attempt (.fetchMany cursor.number batch) cursor.fetchFault?
                (cursor.reply.rows.take batch.toNat, cursor.advance batch.toNat)).2) := rfl
      rw [fetched] at gives ⊢
      cases fault : cursor.fetchFault? with
      | some raised =>
          rw [fault] at gives
          cases gives
      | none =>
          rw [fault] at gives
          cases taken : cursor.reply.rows.take batch.toNat with
          | nil =>
              rw [taken] at gives
              cases gives
          | cons row rest =>
              rw [taken] at gives
              have left := remaining_yieldRow gives
              have count :
                  (row :: rest).length + (cursor.reply.rows.drop batch.toNat).length =
                    cursor.reply.rows.length := by
                rw [← taken, ← List.length_append, List.take_append_drop]
              rw [List.length_cons] at count
              refine Nat.lt_of_le_of_lt (Nat.le_of_eq left) ?_
              show rest.length + (cursor.reply.rows.drop batch.toNat).length < _
              rw [List.length_nil]
              omega

theorem remaining_next_lt
    {stream : Stream α}
    {configured : Int}
    (ordinary : connection.IsOrdinary)
    {value : α}
    (gives : (stream.next configured connection).result = .ok (some value)) :
    (stream.next configured connection).stream.remaining
        (stream.next configured connection).connection <
      stream.remaining connection := by
  rw [next] at gives ⊢
  rw [remaining.eq_def stream connection]
  cases state : stream.state with
  | ended =>
      rw [state] at gives
      cases gives
  | reading cursor names batch rows =>
      rw [state] at gives
      exact remaining_nextOf_lt gives
  | waiting =>
      rw [state] at gives
      dsimp only at gives ⊢
      rcases start_cases ordinary stream.request configured with
        ⟨failure, after, started, -⟩ |
          ⟨cursor, names, batch, after, events, started, -, -, -, answered⟩
      · rw [started] at gives
        cases gives
      · rw [started] at gives ⊢
        rw [← answered]
        have left := remaining_nextOf_lt gives
        rw [List.length_nil, Nat.zero_add] at left
        exact left

/-- Taking rows holds what the state of the stream holds; asking for more than there are ends it. -/
theorem yields_take
    (configured : Int)
    (count : Nat)
    (stream : Stream α)
    (ordinary : connection.IsOrdinary)
    (owns : connection.Owns (stream.state.holdings connection.isPool))
    (isOrdinary : stream.state.IsOrdinary) :
    connection.Yields (stream.state.holdings connection.isPool)
        ((stream.take configured count connection).result,
          (stream.take configured count connection).connection)
        ((stream.take configured count connection).stream.state.holdings connection.isPool)
        (fun _ => True) ∧
      (stream.remaining connection < count →
        (stream.take configured count connection).stream.state = .ended) := by
  induction count generalizing stream connection with
  | zero =>
      refine ⟨Connection.yields_of_result owns fun _ _ => trivial, ?_⟩
      intro impossible
      exact absurd impossible (Nat.not_lt_zero _)
  | succ count ih =>
      have advances := advances_next stream configured ordinary owns isOrdinary
      have decreases (value : α) :
          (stream.next configured connection).result = .ok (some value) → _ :=
        remaining_next_lt ordinary
      rw [take]
      generalize stream.next configured connection = step at advances decreases
      rcases step with ⟨result, stepped, after⟩
      rcases advances with ⟨yields, ordinaryStepped, ends⟩
      have ordinaryAfter := yields.isOrdinary ordinary
      cases result with
      | error failure =>
          refine ⟨yields.error, fun _ => ends ?_⟩
          intro value impossible
          cases impossible
      | ok row =>
          rcases yields.exists_carries with ⟨events, carries, allSucceed⟩
          cases row with
          | none =>
              refine ⟨carries.trans_yields allSucceed ?_, fun _ => ends ?_⟩
              · exact Connection.yields_of_result carries.owns fun _ _ => trivial
              · intro value impossible
                cases impossible
          | some value =>
              have samePool := carries.leads.isPool_eq
              have ownsAfter := carries.owns
              rw [← samePool] at ownsAfter
              rcases ih stepped ordinaryAfter ownsAfter ordinaryStepped with ⟨others, exhausts⟩
              rw [samePool] at others
              have whole := carries.trans_yields allSucceed others
              dsimp only
              generalize stepped.take configured count after = taken at whole exhausts
              rcases taken with ⟨result, last, final⟩
              constructor
              · exact whole.map _
              · intro bound
                apply exhausts
                show stepped.remaining after < count
                have less := decreases value rfl
                dsimp only at less
                omega

/-- Reading all rows of a stream leaves nothing held. -/
theorem takes_collect
    (configured : Int)
    {stream : Stream α}
    (waiting : stream.state = .waiting) :
    Database.Takes .empty .empty (stream.collect configured) fun _ => True := by
  intro connection ordinary owns
  have owned : connection.Owns (stream.state.holdings connection.isPool) := by
    rw [waiting]
    exact owns
  have isOrdinary : stream.state.IsOrdinary := by
    rw [waiting]
    trivial
  rcases yields_take configured (stream.remaining connection + 1) stream ordinary owned isOrdinary
    with ⟨yields, exhausts⟩
  rw [exhausts (Nat.lt_succ_self _), waiting] at yields
  exact yields

end Stream

end SqlMapping
