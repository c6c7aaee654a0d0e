import SqlMapping.Database.Fault
import SqlMapping.Value.Comparison

/-!
# Connections

A connection answers statements from a script: each execution takes the next reply, and any
call may raise a fault instead.  Every call is recorded in the journal of the connection,
together with whether it succeeded, so that the journal tells everything that a database
would have seen.

A handle is a connection, or a pool from which one connection is borrowed at a time.  Calls on
the handle itself and on a borrowed connection are told apart by their endpoint.
-/

namespace SqlMapping

/-- What the execution of a statement gives. -/
structure Reply where
  /-- The names of the result columns; none for a statement that yields no rows. -/
  columns : List String := []
  rows : List (List Value) := []
  /-- The number of affected rows. -/
  affected : Value := .int 1
  /-- What the execution raises instead. -/
  fault : Option Fault := none
  /-- What fetching raises, after so many calls that succeed. -/
  fetchFault : Option (Fault × Nat) := none

/-- A cursor with the rest of the last reply. -/
structure Cursor where
  number : Nat
  reply : Reply := {}
  /-- The number of fetch calls since the last execution. -/
  fetches : Nat := 0

/-- How a cursor is opened. -/
inductive CursorStyle where
  | plain
  /-- Prepared, so that question marks are placeholders. -/
  | prepared
  /-- Opened on a handle that could lend connections too. -/
  | direct
deriving DecidableEq

/-- A call that a connection sees. -/
inductive Call where
  | openCursor (number : Nat) (style : CursorStyle)
  /-- An execution; statements of the unit of work are executed without arguments. -/
  | execute (cursor : Nat) (sql : String) (arguments : Option (List Value))
  | fetchOne (cursor : Nat)
  | fetchMany (cursor : Nat) (size : Int)
  | fetchAll (cursor : Nat)
  | closeCursor (number : Nat)
  | commit
  | rollback
  | borrow
  | giveBack

/-- A call together with its outcome. -/
structure Event where
  call : Call
  succeeded : Bool

/-- What a handle is. -/
inductive HandleKind where
  | connection
  /-- A connection of a driver that prepares statements with question marks. -/
  | preparing
  /-- A handle that only lends connections. -/
  | pool
  /-- A handle that lends connections and opens cursors by itself. -/
  | both
deriving DecidableEq

/-- The attributes by which a connection shows its transaction mode, where it has them. -/
structure ConnectionAttributes where
  autocommit : Option Value := none
  inTransaction : Option Value := none
  isolationLevel : Option Value := none
  /-- The transaction status that the connection reports. -/
  status : Option Value := none

/-- The faults that calls other than executions and fetches raise. -/
structure ConnectionFaults where
  openCursor : Option Fault := none
  commit : Option Fault := none
  rollback : Option Fault := none

/-- A scripted connection, or a pool of one connection. -/
structure Connection where
  kind : HandleKind := .connection
  attributes : ConnectionAttributes := {}
  faults : ConnectionFaults := {}
  /-- What opening a single cursor raises, by the number of the cursor. -/
  cursorFaults : Nat → Option Fault := fun _ => none
  /-- The replies to the executions to come. -/
  replies : List Reply := []
  /-- The number of cursors opened so far. -/
  cursorCount : Nat := 0
  /-- The calls so far, with their outcomes. -/
  journal : List Event := []

/-- Where calls go: to the handle itself, or to a connection borrowed from it. -/
inductive Endpoint where
  | handle
  | borrowed
deriving DecidableEq

namespace ConnectionAttributes

/-- Whether statements take effect one by one. -/
def isAutocommit (attributes : ConnectionAttributes) : Bool :=
  match attributes.autocommit with
  | some (.bool isOn) => isOn
  | _ => attributes.isolationLevel.any Value.isNull

end ConnectionAttributes

namespace Connection

/-- Whether connections have to be borrowed from the handle. -/
def isPool (connection : Connection) : Bool :=
  connection.kind = .pool

/-- Whether calls to an endpoint reach an object that only lends connections. -/
def isLender (connection : Connection) (endpoint : Endpoint) : Bool :=
  endpoint = .handle && (connection.kind = .pool || connection.kind = .both)

/-- The attributes that an endpoint shows; an object that lends connections shows none. -/
def attributesAt (connection : Connection) (endpoint : Endpoint) : ConnectionAttributes :=
  if connection.isLender endpoint then {} else connection.attributes

/-- Record a call with its outcome. -/
def record (connection : Connection) (call : Call) (succeeded : Bool) : Connection :=
  { connection with journal := connection.journal ++ [⟨call, succeeded⟩] }

/-- Record a call that raises a fault if there is one. -/
def attempt {α : Type} (connection : Connection) (call : Call) (fault : Option Fault) (value : α) :
    Except Fault α × Connection :=
  match fault with
  | some fault => (.error fault, connection.record call false)
  | none => (.ok value, connection.record call true)

/-- The style in which a cursor is opened; a preparing connection prepares for its own dialect. -/
def cursorStyle (connection : Connection) (prepares : Bool) : CursorStyle :=
  match connection.kind with
  | .both => .direct
  | .preparing => if prepares then .prepared else .plain
  | .connection | .pool => .plain

/-- Open a cursor. -/
def openCursor (prepares : Bool) (connection : Connection) : Except Fault Cursor × Connection :=
  let number := connection.cursorCount
  { connection with cursorCount := number + 1 }.attempt
    (.openCursor number (connection.cursorStyle prepares))
    (connection.faults.openCursor.or (connection.cursorFaults number))
    { number := number }

/-- Execute a statement: the cursor takes the next reply. -/
def execute
    (cursor : Cursor)
    (sql : String)
    (arguments : Option (List Value))
    (connection : Connection) :
    Except Fault Cursor × Connection :=
  let reply := connection.replies.headD {}
  { connection with replies := connection.replies.tail }.attempt
    (.execute cursor.number sql arguments) reply.fault
    { cursor with reply := reply, fetches := 0 }

/-- Close a cursor. -/
def closeCursor (number : Nat) (connection : Connection) : Connection :=
  connection.record (.closeCursor number) true

/-- Take a connection from a pool. -/
def borrow (connection : Connection) : Connection :=
  connection.record .borrow true

/-- Return a connection to its pool. -/
def giveBack (connection : Connection) : Connection :=
  connection.record .giveBack true

/-- The fault of calling something that an object which only lends connections lacks. -/
def missingCall (name : String) : Fault where
  kind := .ordinary
  name := "AttributeError"
  text := "'Pool' object has no attribute '" ++ name ++ "'"

/-- Confirm the open transaction; an object that lends connections has none. -/
def commit (endpoint : Endpoint) (connection : Connection) : Except Fault Unit × Connection :=
  if connection.isLender endpoint then (.error (missingCall "commit"), connection)
  else connection.attempt .commit connection.faults.commit ()

/-- Undo the open transaction; an object that lends connections has none. -/
def rollback (endpoint : Endpoint) (connection : Connection) : Except Fault Unit × Connection :=
  if connection.isLender endpoint then (.error (missingCall "rollback"), connection)
  else connection.attempt .rollback connection.faults.rollback ()

end Connection

namespace Cursor

/-- The fault that the next fetch call raises, if any. -/
def fetchFault? (cursor : Cursor) : Option Fault :=
  match cursor.reply.fetchFault with
  | some (fault, after) => if after ≤ cursor.fetches then some fault else none
  | none => none

/-- The cursor after a fetch call that took so many rows. -/
def advance (cursor : Cursor) (count : Nat) : Cursor :=
  { cursor with
    reply := { cursor.reply with rows := cursor.reply.rows.drop count }
    fetches := cursor.fetches + 1 }

/-- Fetch the next row, if there is one. -/
def fetchOne (cursor : Cursor) (connection : Connection) :
    Except Fault (Option (List Value) × Cursor) × Connection :=
  connection.attempt (.fetchOne cursor.number) cursor.fetchFault?
    (cursor.reply.rows.head?, cursor.advance 1)

/-- Fetch at most so many rows. -/
def fetchMany (size : Int) (cursor : Cursor) (connection : Connection) :
    Except Fault (List (List Value) × Cursor) × Connection :=
  connection.attempt (.fetchMany cursor.number size) cursor.fetchFault?
    (cursor.reply.rows.take size.toNat, cursor.advance size.toNat)

/-- Fetch all rows that are left. -/
def fetchAll (cursor : Cursor) (connection : Connection) :
    Except Fault (List (List Value) × Cursor) × Connection :=
  connection.attempt (.fetchAll cursor.number) cursor.fetchFault?
    (cursor.reply.rows, cursor.advance cursor.reply.rows.length)

end Cursor

end SqlMapping
