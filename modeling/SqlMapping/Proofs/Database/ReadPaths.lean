import SqlMapping.Proofs.Database.Streaming

/-!
# Ways to read rows

The rows of a statement can be streamed in batches, fetched all at once, or fetched where at
most one is expected.  Whichever way is taken, what is read are the same rows, decoded in the
same order: a stream gives them one by one up to the first row that cannot be decoded, all rows
are the list of what the stream gives, and a single row is the only member of that list.

The main statement says so for every batch size and whatever the rows are.
-/

namespace SqlMapping

variable {α : Type}

/-! ## Outcomes of rows -/

/-- Outcomes up to the first failure, which is the last one that is seen. -/
def Outcome.untilFailure {ε : Type} : List (Except ε α) → List (Except ε α)
  | [] => []
  | .ok value :: rest => .ok value :: untilFailure rest
  | .error error :: _ => [.error error]

/-- Outcomes fail together as far as they are seen. -/
theorem Outcome.mapM_untilFailure {ε : Type} (outcomes : List (Except ε α)) :
    (untilFailure outcomes).mapM id = outcomes.mapM id := by
  induction outcomes with
  | nil => rfl
  | cons outcome rest inductionHypothesis =>
      cases outcome with
      | error error => rfl
      | ok value => rw [untilFailure, List.mapM_cons, List.mapM_cons, inductionHypothesis]

/-- A decoder whose refusals are validation errors: none of its issues ends the reading. -/
def Decoder.Validates (decoder : Decoder α) : Prop :=
  ∀ row issues, decoder row = .error issues →
    ∀ issue ∈ issues, ∀ cause, issue.kind ≠ .stop cause

namespace Database

/-- A row that a validating decoder refuses is reported as one that cannot be decoded. -/
theorem decodeRow_cases
    {decoder : Decoder α}
    (validates : decoder.Validates)
    (sql : String)
    (names : List String)
    (row : List Value) :
    (∃ value, decodeRow decoder sql names row = .ok value) ∨
      ∃ issues, decodeRow decoder sql names row = .error (.undecodable issues sql) := by
  rw [decodeRow, decodeNamed]
  cases decoded : decoder (namedRow names row) with
  | ok value => exact Or.inl ⟨value, rfl⟩
  | error issues =>
      right
      have noStop := validates _ issues decoded
      rw [Except.mapError, Failure.ofIssues]
      cases final : Issue.final issues with
      | nil => exact ⟨issues, rfl⟩
      | cons first rest =>
          have isIssue : first ∈ issues := by
            apply (List.dropWhile_suffix _).mem
            rw [← Issue.final, final]
            exact List.mem_cons_self
          have continues := noStop first isIssue
          refine ⟨first :: rest, ?_⟩
          dsimp only
          split
          · rename_i cause isStop
            exact absurd isStop (continues cause)
          · rfl

end Database

/-! ## Replies that are read -/

/-- The next statement is answered with a reply, and nothing keeps the reply from being read. -/
structure Connection.Answers (connection : Connection) (reply : Reply) : Prop where
  opens : connection.faults.openCursor = none
  opensEach : connection.cursorFaults connection.cursorCount = none
  next : connection.replies.headD {} = reply
  executes : reply.fault = none
  fetches : reply.fetchFault = none

namespace Connection.Answers

variable {connection : Connection} {reply : Reply}

theorem borrow (answers : connection.Answers reply) : connection.borrow.Answers reply :=
  ⟨answers.opens, answers.opensEach, answers.next, answers.executes, answers.fetches⟩

theorem exists_on_openCursor
    (answers : connection.Answers reply)
    (dialect : Option String) :
    ∃ (cursor : Cursor) (opened : Connection),
      (Database.openCursor dialect).on connection = (.ok cursor, opened) ∧
        opened.replies = connection.replies := by
  have noFault :
      connection.faults.openCursor.or (connection.cursorFaults connection.cursorCount) = none := by
    rw [answers.opens, answers.opensEach]
    rfl
  rw [Database.openCursor, Database.driver, Database.on_ofFunction, Connection.openCursor]
  dsimp only
  rw [noFault]
  exact ⟨_, _, rfl, rfl⟩

theorem exists_on_run
    (answers : connection.Answers reply)
    {opened : Connection}
    (same : opened.replies = connection.replies)
    (cursor : Cursor)
    (sql : String)
    (arguments : List Value) :
    ∃ running : Connection,
      (Database.run cursor sql arguments).on opened =
        (.ok { cursor with reply := reply, fetches := 0 }, running) := by
  rw [Database.run, Database.driver, Database.on_ofFunction, Connection.execute, same, answers.next]
  dsimp only
  rw [answers.executes]
  exact ⟨_, rfl⟩

theorem exists_on_withCursor
    {β : Type}
    (answers : connection.Answers reply)
    (sql : String)
    (arguments : List Value)
    (dialect : Option String)
    (use : Cursor → Database β) :
    ∃ (cursor : Cursor) (running : Connection),
      cursor.reply = reply ∧
        ((Database.withCursor dialect fun cursor =>
            Database.run cursor sql arguments >>= use).on connection).1 =
          ((use cursor).on running).1 := by
  rcases answers.exists_on_openCursor dialect with ⟨cursor, opened, isOpened, same⟩
  rcases answers.exists_on_run same cursor sql arguments with ⟨running, isRun⟩
  refine ⟨{ cursor with reply := reply, fetches := 0 }, running, rfl, ?_⟩
  rw [Database.withCursor, Database.on_bind, isOpened]
  dsimp only
  rw [Database.followedBy, Database.on_ofFunction, Database.on_bind, isRun]

/-- A statement that is executed is used with a cursor on its reply. -/
theorem exists_on_executing
    {β : Type}
    (answers : connection.Answers reply)
    (sql : String)
    (arguments : List Value)
    (dialect : Option String)
    (use : Cursor → Database β) :
    ∃ (cursor : Cursor) (running : Connection),
      cursor.reply = reply ∧
        ((Database.executing sql arguments dialect use).on connection).1 =
          ((use cursor).on running).1 := by
  rw [Database.executing, Database.on_acquire]
  split_ifs
  · exact answers.borrow.exists_on_withCursor sql arguments dialect use
  · exact answers.exists_on_withCursor sql arguments dialect use

/-- The rows that a fetch takes of the reply are the raw rows of the statement. -/
theorem fst_on_fetchRaw
    (answers : connection.Answers reply)
    (fetch : Cursor → Connection → Except Fault (List (List Value) × Cursor) × Connection)
    (rows : List (List Value))
    (fetches :
      ∀ cursor connection, cursor.reply = reply →
        ∃ rest, (fetch cursor connection).1 = .ok (rows, rest))
    (sql : String)
    (arguments : List Value)
    (dialect : Option String) :
    ((Database.fetchRaw fetch sql arguments dialect).on connection).1 =
      .ok ⟨Database.columnNames reply, rows⟩ := by
  rcases answers.exists_on_executing sql arguments dialect
      (fun cursor =>
        Database.driver (some sql) (fetch cursor) >>= fun fetched =>
          pure (Database.RawRows.mk (Database.columnNames cursor.reply) fetched.1)) with
    ⟨cursor, running, isReply, executed⟩
  rcases fetches cursor running isReply with ⟨rest, fetched⟩
  have driven :
      (Database.driver (some sql) (fetch cursor)).on running =
        (.ok (rows, rest), (fetch cursor running).2) := by
    show
      ((fetch cursor running).1.mapError (Failure.ofFault (some sql)), (fetch cursor running).2) = _
    rw [fetched]
    rfl
  rw [Database.fetchRaw]
  refine executed.trans ?_
  rw [Database.on_bind, driven, isReply]
  rfl

end Connection.Answers

namespace Cursor

variable {cursor : Cursor}

theorem fetchFault?_eq_none (fetches : cursor.reply.fetchFault = none) :
    cursor.fetchFault? = none := by
  rw [fetchFault?, fetches]

theorem fst_fetchMany
    (fetches : cursor.reply.fetchFault = none)
    (size : Int)
    (connection : Connection) :
    (cursor.fetchMany size connection).1 =
      .ok (cursor.reply.rows.take size.toNat, cursor.advance size.toNat) := by
  rw [fetchMany, fetchFault?_eq_none fetches]
  rfl

theorem fst_fetchAll
    (fetches : cursor.reply.fetchFault = none)
    (connection : Connection) :
    (cursor.fetchAll connection).1 =
      .ok (cursor.reply.rows, cursor.advance cursor.reply.rows.length) := by
  rw [fetchAll, fetchFault?_eq_none fetches]
  rfl

end Cursor

/-! ## Rows that are fetched -/

namespace Database

variable {connection : Connection} {reply : Reply} {decoder : Decoder α}

/-- The outcomes of decoding the rows of a reply. -/
def outcomesOf (decoder : Decoder α) (sql : String) (reply : Reply) : List (Except Failure α) :=
  reply.rows.map (decodeRow decoder sql (columnNames reply))

/-- What at most one outcome comes to, if it may be missing. -/
def onlyOutcome? (sql : String) : List (Except Failure α) → Except Failure (Option α)
  | [] => .ok none
  | [only] => only.map some
  | _ :: _ :: _ => .error (.multipleRows sql)

/-- What exactly one outcome comes to. -/
def onlyOutcome (sql : String) : List (Except Failure α) → Except Failure α
  | [] => .error (.rowNotFound .fetched sql)
  | [only] => only
  | _ :: _ :: _ => .error (.multipleRows sql)

theorem fst_on_fetchAll
    (answers : connection.Answers reply)
    (decoder : Decoder α)
    (sql : String)
    (arguments : List Value)
    (dialect : Option String) :
    ((fetchAll decoder sql arguments dialect).on connection).1 =
      (outcomesOf decoder sql reply).mapM id := by
  have fetches :
      ∀ (cursor : Cursor) (connection : Connection), cursor.reply = reply →
        ∃ rest, (cursor.fetchAll connection).1 = .ok (reply.rows, rest) := by
    rintro cursor connection rfl
    exact ⟨_, Cursor.fst_fetchAll answers.fetches connection⟩
  have fetched := answers.fst_on_fetchRaw Cursor.fetchAll reply.rows fetches sql arguments dialect
  rw [fetchAll, on_bind]
  generalize (fetchRaw Cursor.fetchAll sql arguments dialect).on connection = outcome at fetched
  rcases outcome with ⟨result, after⟩
  cases fetched
  show reply.rows.mapM (decodeRow decoder sql (columnNames reply)) = _
  rw [outcomesOf, List.mapM_map]
  rfl

theorem fst_on_fetchOptional
    (answers : connection.Answers reply)
    (decoder : Decoder α)
    (sql : String)
    (arguments : List Value)
    (dialect : Option String) :
    ((fetchOptional decoder sql arguments dialect).on connection).1 =
      onlyOutcome? sql (outcomesOf decoder sql reply) := by
  have fetches :
      ∀ (cursor : Cursor) (connection : Connection), cursor.reply = reply →
        ∃ rest, (cursor.fetchMany 2 connection).1 = .ok (reply.rows.take 2, rest) := by
    rintro cursor connection rfl
    exact ⟨_, Cursor.fst_fetchMany answers.fetches 2 connection⟩
  have fetched :=
    answers.fst_on_fetchRaw (Cursor.fetchMany 2) (reply.rows.take 2) fetches sql arguments dialect
  rw [fetchOptional, on_bind]
  generalize (fetchRaw (Cursor.fetchMany 2) sql arguments dialect).on connection = outcome
    at fetched
  rcases outcome with ⟨result, after⟩
  cases fetched
  show onlyRow? decoder sql ⟨columnNames reply, reply.rows.take 2⟩ = _
  rw [outcomesOf, onlyRow?]
  rcases reply.rows with _ | ⟨first, _ | ⟨second, rest⟩⟩
  · rfl
  · rfl
  · rfl

theorem fst_on_fetchOne
    (answers : connection.Answers reply)
    (decoder : Decoder α)
    (sql : String)
    (arguments : List Value)
    (dialect : Option String) :
    ((fetchOne decoder sql arguments dialect).on connection).1 =
      onlyOutcome sql (outcomesOf decoder sql reply) := by
  have fetched := fst_on_fetchOptional answers decoder sql arguments dialect
  rw [fetchOne, on_bind]
  generalize (fetchOptional decoder sql arguments dialect).on connection = outcome at fetched
  rcases outcome with ⟨result, after⟩
  dsimp only at fetched
  rw [fetched]
  rcases outcomesOf decoder sql reply with _ | ⟨first, _ | ⟨second, rest⟩⟩
  · rfl
  · cases first with
    | error failure => rfl
    | ok value => rfl
  · rfl

end Database

/-! ## Rows that are streamed -/

namespace Stream

variable {configured : Int} {connection : Connection} {stream : Stream α}
variable {outcomes : List (Except Failure α)}

/-- The outcomes of the rows that a stream has yet to give. -/
def Awaits
    (configured : Int)
    (outcomes : List (Except Failure α))
    (stream : Stream α)
    (connection : Connection) :
    Prop :=
  match stream.state with
  | .waiting =>
    ∃ reply,
      connection.Answers reply ∧ 0 < batchSize stream.request configured ∧
        Database.outcomesOf stream.decoder stream.request.sql reply = outcomes
  | .reading cursor names batch rows =>
    cursor.reply.fetchFault = none ∧ 0 < batch ∧
      (rows ++ cursor.reply.rows).map
          (Database.decodeRow stream.decoder stream.request.sql names) = outcomes
  | .ended => outcomes = []

/-- A step in which a stream goes on from some awaited outcomes. -/
inductive Follows (configured : Int) : List (Except Failure α) → Step α → Prop
  | ends
      {stream : Stream α}
      {connection : Connection}
      (awaits : stream.Awaits configured [] connection) :
      Follows configured [] ⟨.ok none, stream, connection⟩
  | gives
      {value : α}
      {rest : List (Except Failure α)}
      {stream : Stream α}
      {connection : Connection}
      (awaits : stream.Awaits configured rest connection) :
      Follows configured (.ok value :: rest) ⟨.ok (some value), stream, connection⟩
  | fails
      {failure : Failure}
      {rest : List (Except Failure α)}
      {stream : Stream α}
      {connection : Connection}
      (awaits : stream.Awaits configured [] connection) :
      Follows configured (.error failure :: rest) ⟨.error failure, stream, connection⟩

/-- A stream that starts has run its statement and reads the reply. -/
theorem exists_start
    {reply : Reply}
    (answers : connection.Answers reply)
    (request : StreamRequest)
    (configured : Int) :
    ∃ (cursor : Cursor) (running : Connection),
      start request configured connection =
          (.ok (.reading cursor (Database.columnNames reply) (batchSize request configured) []),
            running) ∧
        cursor.reply = reply := by
  have opens :
      ∃ (cursor : Cursor) (opened : Connection),
        openOn request connection = (.ok cursor, opened) ∧
          opened.replies = connection.replies := by
    rw [openOn]
    split_ifs
    · rcases answers.borrow.exists_on_openCursor request.dialect with
        ⟨cursor, opened, isOpened, same⟩
      rw [isOpened]
      exact ⟨cursor, opened, rfl, same⟩
    · exact answers.exists_on_openCursor request.dialect
  rcases opens with ⟨cursor, opened, isOpened, same⟩
  rcases answers.exists_on_run same cursor request.sql request.arguments with ⟨running, isRun⟩
  refine ⟨{ cursor with reply := reply, fetches := 0 }, running, ?_, rfl⟩
  rw [start, isOpened]
  dsimp only
  rw [isRun]

theorem awaits_ended (connection : Connection) :
    Awaits configured [] { stream with state := .ended } connection :=
  rfl

theorem awaits_waiting
    (stream : Stream α)
    {reply : Reply}
    (answers : connection.Answers reply)
    (waiting : stream.state = .waiting)
    (positive : 0 < batchSize stream.request configured) :
    stream.Awaits configured
      (Database.outcomesOf stream.decoder stream.request.sql reply) connection := by
  rw [Awaits, waiting]
  exact ⟨reply, answers, positive, rfl⟩

theorem follows_yieldRow
    {cursor : Cursor}
    {names : List String}
    {batch : Int}
    {row : List Value}
    {rest : List (List Value)}
    (fetches : cursor.reply.fetchFault = none)
    (positive : 0 < batch) :
    Follows configured
      ((row :: (rest ++ cursor.reply.rows)).map
        (Database.decodeRow stream.decoder stream.request.sql names))
      (stream.yieldRow cursor names batch row rest connection) := by
  rw [List.map_cons, yieldRow]
  cases Database.decodeRow stream.decoder stream.request.sql names row with
  | error failure => exact .fails (awaits_ended _)
  | ok value => exact .gives ⟨fetches, positive, rfl⟩

theorem follows_nextOf
    {cursor : Cursor}
    {names : List String}
    {batch : Int}
    {rows : List (List Value)}
    (fetches : cursor.reply.fetchFault = none)
    (positive : 0 < batch) :
    Follows configured
      ((rows ++ cursor.reply.rows).map
        (Database.decodeRow stream.decoder stream.request.sql names))
      (stream.nextOf cursor names batch rows connection) := by
  cases rows with
  | cons row rest => exact follows_yieldRow fetches positive
  | nil =>
      have fetched := Cursor.fst_fetchMany fetches batch connection
      rw [nextOf, Database.driver, Database.on_ofFunction, List.nil_append]
      generalize cursor.fetchMany batch connection = outcome at fetched
      rcases outcome with ⟨result, after⟩
      cases fetched
      cases pending : cursor.reply.rows with
      | nil =>
          rw [List.take_nil]
          exact .ends (awaits_ended _)
      | cons row rest =>
          -- A batch is never empty while rows are left, so that no row is skipped.
          obtain ⟨size, isSize⟩ : ∃ size : Nat, batch.toNat = size + 1 :=
            Nat.exists_eq_succ_of_ne_zero (by omega)
          have advanced : (cursor.advance batch.toNat).reply.rows = rest.drop size := by
            show cursor.reply.rows.drop batch.toNat = _
            rw [pending, isSize, List.drop_succ_cons]
          have follows :
              Follows configured
                ((row :: (rest.take size ++ (cursor.advance batch.toNat).reply.rows)).map
                  (Database.decodeRow stream.decoder stream.request.sql names))
                (stream.yieldRow (cursor.advance batch.toNat) names batch row (rest.take size)
                  after) :=
            follows_yieldRow fetches positive
          have taken : (row :: rest).take batch.toNat = row :: rest.take size := by
            rw [isSize, List.take_succ_cons]
          rw [advanced, List.take_append_drop] at follows
          rw [taken]
          exact follows

/-- Every call of a stream goes on from the outcomes that it awaits. -/
theorem follows_next
    (awaits : stream.Awaits configured outcomes connection) :
    Follows configured outcomes (stream.next configured connection) := by
  rw [Awaits] at awaits
  rw [next]
  cases state : stream.state with
  | ended =>
      rw [state] at awaits
      cases awaits
      refine .ends ?_
      rw [Awaits, state]
  | reading cursor names batch rows =>
      rw [state] at awaits
      rcases awaits with ⟨fetches, positive, rfl⟩
      exact follows_nextOf fetches positive
  | waiting =>
      rw [state] at awaits
      rcases awaits with ⟨reply, answers, positive, rfl⟩
      rcases exists_start answers stream.request configured with ⟨cursor, running, started, rfl⟩
      rw [started]
      have follows :
          Follows configured
            (([] ++ cursor.reply.rows).map
              (Database.decodeRow stream.decoder stream.request.sql
                (Database.columnNames cursor.reply)))
            (stream.nextOf cursor (Database.columnNames cursor.reply)
              (batchSize stream.request configured) [] running) :=
        follows_nextOf answers.fetches positive
      exact follows

/-- What a stream gives after some calls for its next row. -/
def resultAfter (configured : Int) :
    (calls : Nat) → Stream α → Connection → Except Failure (Option α)
  | 0, stream, connection => (stream.next configured connection).result
  | calls + 1, stream, connection =>
    resultAfter configured calls (stream.next configured connection).stream
      (stream.next configured connection).connection

/-- A stream gives the awaited outcomes one by one, up to the first failure, and then no more. -/
theorem resultAfter_eq
    (awaits : stream.Awaits configured outcomes connection)
    (calls : Nat) :
    resultAfter configured calls stream connection =
      match (Outcome.untilFailure outcomes)[calls]? with
      | some outcome => outcome.map some
      | none => .ok none := by
  induction calls generalizing stream connection outcomes with
  | zero =>
      have follows := follows_next awaits
      rw [resultAfter]
      generalize stream.next configured connection = step at follows
      cases follows with
      | ends => rfl
      | gives => rfl
      | fails => rfl
  | succ calls inductionHypothesis =>
      have follows := follows_next awaits
      rw [resultAfter]
      generalize stream.next configured connection = step at follows
      cases follows with
      | ends nothing => exact inductionHypothesis nothing
      | gives others => exact inductionHypothesis others
      | fails nothing => exact inductionHypothesis nothing

/-- Taking more rows than there are gives all of them, or the first failure. -/
theorem result_take
    {count : Nat}
    (awaits : stream.Awaits configured outcomes connection)
    (enough : outcomes.length < count) :
    (stream.take configured count connection).result = outcomes.mapM id := by
  induction count generalizing stream connection outcomes with
  | zero => exact absurd enough (Nat.not_lt_zero _)
  | succ count inductionHypothesis =>
      have follows := follows_next awaits
      rw [take]
      generalize stream.next configured connection = step at follows
      cases follows with
      | ends => rfl
      | fails => rfl
      | gives others =>
          have rest := inductionHypothesis others (Nat.lt_of_succ_lt_succ enough)
          dsimp only
          rw [rest, List.mapM_cons]
          rfl

theorem fst_on_collect
    {reply : Reply}
    (answers : connection.Answers reply)
    (waiting : stream.state = .waiting)
    (positive : 0 < batchSize stream.request configured) :
    ((stream.collect configured).on connection).1 =
      (Database.outcomesOf stream.decoder stream.request.sql reply).mapM id := by
  have awaits := stream.awaits_waiting answers waiting positive
  have left : stream.remaining connection = reply.rows.length := by
    rw [remaining, waiting]
    show (connection.replies.headD {}).rows.length = _
    rw [answers.next]
  rw [collect, Database.on_ofFunction]
  apply result_take awaits
  rw [left, Database.outcomesOf, List.length_map]
  exact Nat.lt_succ_self _

end Stream

/-! ## All ways to read -/

/--
The ways to read the rows of a request are views of one sequence of outcomes: a stream gives the
outcomes one by one up to the first failure and nothing after that, the rows of a whole stream and
all rows at once are what the stream gives together, and the ways that expect a single row agree
on everything but the absence of a row.
-/
structure StreamRequest.Views
    (request : StreamRequest)
    (decoder : Decoder α)
    (configured : Int)
    (connection : Connection)
    (outcomes : List (Except Failure α)) :
    Prop where
  stream :
    ∀ calls,
      Stream.resultAfter configured calls ⟨request, decoder, .waiting⟩ connection =
        match (Outcome.untilFailure outcomes)[calls]? with
        | some outcome => outcome.map some
        | none => .ok none
  collected :
    ((Stream.collect ⟨request, decoder, .waiting⟩ configured).on connection).1 =
      (Outcome.untilFailure outcomes).mapM id
  all :
    ((Database.fetchAll decoder request.sql request.arguments request.dialect).on connection).1 =
      (Outcome.untilFailure outcomes).mapM id
  optional :
    ((Database.fetchOptional decoder request.sql request.arguments request.dialect).on
        connection).1 =
      Database.onlyOutcome? request.sql outcomes
  one :
    ((Database.fetchOne decoder request.sql request.arguments request.dialect).on connection).1 =
      Database.onlyOutcome request.sql outcomes

/--
Whatever rows a statement gives and however many are fetched at once, every way to read them is
a view of their outcomes in order; each row is decoded or reported as one that cannot be.
-/
theorem views_of_answers
    {decoder : Decoder α}
    {request : StreamRequest}
    {configured : Int}
    {connection : Connection}
    {reply : Reply}
    (validates : decoder.Validates)
    (answers : connection.Answers reply)
    (positive : 0 < Stream.batchSize request configured) :
    (∀ outcome ∈ Database.outcomesOf decoder request.sql reply,
      (∃ value, outcome = .ok value) ∨
        ∃ issues, outcome = .error (.undecodable issues request.sql)) ∧
      request.Views decoder configured connection
        (Database.outcomesOf decoder request.sql reply) := by
  constructor
  · intro outcome member
    rcases List.mem_map.1 member with ⟨row, -, rfl⟩
    exact Database.decodeRow_cases validates request.sql _ row
  · constructor
    case stream =>
      intro calls
      have awaits := Stream.awaits_waiting ⟨request, decoder, .waiting⟩ answers rfl positive
      exact Stream.resultAfter_eq awaits calls
    case collected =>
      rw [Outcome.mapM_untilFailure]
      exact Stream.fst_on_collect answers rfl positive
    case all =>
      rw [Outcome.mapM_untilFailure]
      exact Database.fst_on_fetchAll answers decoder _ _ _
    case optional => exact Database.fst_on_fetchOptional answers decoder _ _ _
    case one => exact Database.fst_on_fetchOne answers decoder _ _ _

/-- Rows of a number each. -/
def numberDecoder : Decoder Int := fun row =>
  match row.lookup "n" with
  | some (.int number) => .ok number
  | _ => Checked.issue .intType

/-- A request for numbers in batches of two. -/
def numberRequest : StreamRequest where
  sql := "SELECT n FROM numbers"
  arguments := []
  dialect := some "sqlite"
  batch := some 2

/-- Four rows, of which the first of the second batch has no number. -/
def numberReply : Reply where
  columns := ["n"]
  rows := [[.int 1], [.int 2], [.text "three"], [.int 4]]

/-- A pool whose connection answers with the numbers. -/
def numberPool : Connection where
  kind := .pool
  replies := [numberReply]

theorem views_of_answers_numberPool :
    (Decoder.Validates numberDecoder ∧
        numberPool.Answers numberReply ∧ 0 < Stream.batchSize numberRequest 100) ∧
      (∀ outcome ∈ Database.outcomesOf numberDecoder numberRequest.sql numberReply,
        (∃ value, outcome = .ok value) ∨
          ∃ issues, outcome = .error (.undecodable issues numberRequest.sql)) ∧
        numberRequest.Views numberDecoder 100 numberPool
          (Database.outcomesOf numberDecoder numberRequest.sql numberReply) := by
  have validates : Decoder.Validates numberDecoder := by
    intro row issues refused issue member cause
    have isIssue : issues = [⟨[], .intType, false⟩] := by
      rw [numberDecoder] at refused
      split at refused
      · cases refused
      · cases refused
        rfl
    rw [isIssue] at member
    rw [List.mem_singleton.1 member]
    exact fun impossible => by cases impossible
  have answers : numberPool.Answers numberReply := ⟨rfl, rfl, rfl, rfl, rfl⟩
  have positive : 0 < Stream.batchSize numberRequest 100 := by decide
  exact ⟨⟨validates, answers, positive⟩, views_of_answers validates answers positive⟩

end SqlMapping
