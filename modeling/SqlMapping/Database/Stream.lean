import SqlMapping.Database.Execution

/-!
# Streams

A stream decodes the rows of a statement one at a time and fetches them in batches.  Nothing
happens before its first row is asked for.  From then on it holds its cursor, and the borrowed
connection if there is one, until the rows are exhausted, a failure occurs or it is closed; it
then lets go of both, and gives nothing more.
-/

namespace SqlMapping

/-- A statement whose rows are streamed. -/
structure StreamRequest where
  sql : String
  arguments : List Value
  dialect : Option String
  /-- The number of rows that are fetched at once, if it is not left to the settings. -/
  batch : Option Int := none

/-- How far a stream has come. -/
inductive StreamState where
  | waiting
  /-- The cursor, the column names, the batch size and the fetched rows that are left. -/
  | reading (cursor : Cursor) (names : List String) (batch : Int) (rows : List (List Value))
  | ended

/-- A stream of decoded rows. -/
structure Stream (α : Type) where
  request : StreamRequest
  decoder : Decoder α
  state : StreamState := .waiting

namespace Stream

variable {α : Type}

/-- The batch size of a request: its own unless that is zero, or else that of the settings. -/
def batchSize (request : StreamRequest) (configured : Int) : Int :=
  match request.batch with
  | some size => if size = 0 then configured else size
  | none => configured

/-- Close a cursor, and return the connection it was opened on if that was borrowed. -/
def release (number : Nat) (connection : Connection) : Connection :=
  let closed := connection.closeCursor number
  if connection.isPool then closed.giveBack else closed

/-- Open the cursor of a stream, on a borrowed connection if necessary. -/
def openOn (request : StreamRequest) (connection : Connection) :
    Except Failure Cursor × Connection :=
  if connection.isPool then
    match (Database.openCursor request.dialect).on connection.borrow with
    | (.ok cursor, after) => (.ok cursor, after)
    | (.error failure, after) => (.error failure, after.giveBack)
  else (Database.openCursor request.dialect).on connection

/-- Run the statement of a stream: the cursor is kept open if that succeeds. -/
def start (request : StreamRequest) (configured : Int) (connection : Connection) :
    Except Failure StreamState × Connection :=
  match openOn request connection with
  | (.error failure, after) => (.error failure, after)
  | (.ok cursor, opened) =>
    match (Database.run cursor request.sql request.arguments).on opened with
    | (.error failure, after) => (.error failure, release cursor.number after)
    | (.ok cursor, after) =>
      (.ok (.reading cursor (Database.columnNames cursor.reply)
        (batchSize request configured) []), after)

/-- What a step of a stream gives: a row, the end, or a failure. -/
structure Step (α : Type) where
  result : Except Failure (Option α)
  stream : Stream α
  connection : Connection

/-- Decode the first of the fetched rows; a row that does not fit ends the stream. -/
def yieldRow
    (stream : Stream α)
    (cursor : Cursor)
    (names : List String)
    (batch : Int)
    (row : List Value)
    (rest : List (List Value))
    (connection : Connection) :
    Step α :=
  match Database.decodeRow stream.decoder stream.request.sql names row with
  | .ok value =>
    ⟨.ok (some value), { stream with state := .reading cursor names batch rest }, connection⟩
  | .error failure =>
    ⟨.error failure, { stream with state := .ended }, release cursor.number connection⟩

/-- The next row of a stream that is reading. -/
def nextOf
    (stream : Stream α)
    (cursor : Cursor)
    (names : List String)
    (batch : Int)
    (rows : List (List Value))
    (connection : Connection) :
    Step α :=
  match rows with
  | row :: rest => stream.yieldRow cursor names batch row rest connection
  | [] =>
    match (Database.driver (some stream.request.sql) (cursor.fetchMany batch)).on connection with
    | (.error failure, after) =>
      ⟨.error failure, { stream with state := .ended }, release cursor.number after⟩
    | (.ok ([], cursor), after) =>
      ⟨.ok none, { stream with state := .ended }, release cursor.number after⟩
    | (.ok (row :: rest, cursor), after) =>
      stream.yieldRow cursor names batch row rest after

/-- The next row of a stream; `configured` is the batch size of the settings. -/
def next (stream : Stream α) (configured : Int) (connection : Connection) : Step α :=
  match stream.state with
  | .ended => ⟨.ok none, stream, connection⟩
  | .reading cursor names batch rows => stream.nextOf cursor names batch rows connection
  | .waiting =>
    match start stream.request configured connection with
    | (.error failure, after) => ⟨.error failure, { stream with state := .ended }, after⟩
    | (.ok (.reading cursor names batch rows), after) =>
      stream.nextOf cursor names batch rows after
    | (.ok _, after) => ⟨.ok none, { stream with state := .ended }, after⟩

/-- End a stream before its rows are exhausted. -/
def close (stream : Stream α) (connection : Connection) : Stream α × Connection :=
  match stream.state with
  | .reading cursor _ _ _ =>
    ({ stream with state := .ended }, release cursor.number connection)
  | .waiting | .ended => ({ stream with state := .ended }, connection)

/-- What several steps of a stream give. -/
structure Taken (α : Type) where
  result : Except Failure (List α)
  stream : Stream α
  connection : Connection

/-- At most `count` rows; a failure discards the rows before it. -/
def take (stream : Stream α) (configured : Int) : (count : Nat) → Connection → Taken α
  | 0, connection => ⟨.ok [], stream, connection⟩
  | count + 1, connection =>
    match stream.next configured connection with
    | ⟨.error failure, stream, after⟩ => ⟨.error failure, stream, after⟩
    | ⟨.ok none, stream, after⟩ => ⟨.ok [], stream, after⟩
    | ⟨.ok (some value), stream, after⟩ =>
      match stream.take configured count after with
      | ⟨result, stream, after⟩ => ⟨result.map (value :: ·), stream, after⟩

/-- The number of rows that a stream can still give on a connection. -/
def remaining (stream : Stream α) (connection : Connection) : Nat :=
  match stream.state with
  | .ended => 0
  | .reading cursor _ _ rows => rows.length + cursor.reply.rows.length
  | .waiting => (connection.replies.headD {}).rows.length

/-- All rows of a new stream. -/
def collect (stream : Stream α) (configured : Int) : Database (List α) :=
  Database.ofFunction fun connection =>
    match stream.take configured (stream.remaining connection + 1) connection with
    | ⟨result, _, after⟩ => (result, after)

end Stream

end SqlMapping
