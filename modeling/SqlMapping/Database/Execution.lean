import SqlMapping.Database.Action
import SqlMapping.Entries
import SqlMapping.Statement.SelectList
import SqlMapping.Validation.Model

/-!
# Execution

Statements are executed on a cursor, which is opened on the handle or on a connection borrowed
from it.  The cursor is closed before a borrowed connection is returned, and both happen on
every outcome.  Rows are decoded after that, so that a row that cannot be decoded keeps nothing
open.
-/

namespace SqlMapping

/-- What the named values of a row are turned into. -/
abbrev Decoder (α : Type) := List (String × Value) → Checked α

namespace Database

variable {α β : Type}

/-- Act on the connection itself, or on one that is borrowed and then returned. -/
def acquire (action : Endpoint → Database α) : Database α :=
  ofFunction fun connection =>
    if connection.isPool then
      ((action .borrowed).followedBy Connection.giveBack).on connection.borrow
    else (action .handle).on connection

/-- The dialect whose question marks only prepared statements understand. -/
def preparedDialect : String := "mysql"

/-- Open a cursor for a dialect. -/
def openCursor (dialect : Option String) : Database Cursor :=
  driver none (Connection.openCursor (dialect = some preparedDialect))

/-- Execute a statement on a cursor. -/
def run (cursor : Cursor) (sql : String) (arguments : List Value) : Database Cursor :=
  driver (some sql) (Connection.execute cursor sql (some arguments))

/-- Act on a new cursor, and close it. -/
def withCursor (dialect : Option String) (action : Cursor → Database α) : Database α :=
  openCursor dialect >>= fun cursor =>
    (action cursor).followedBy (Connection.closeCursor cursor.number)

/-- Execute a statement on a new cursor and use the cursor. -/
def executing
    (sql : String)
    (arguments : List Value)
    (dialect : Option String)
    (use : Cursor → Database α) :
    Database α :=
  acquire fun _ => withCursor dialect fun cursor => run cursor sql arguments >>= use

/-- Execute a statement that yields no rows; the result is the number of affected rows. -/
def execute (sql : String) (arguments : List Value) (dialect : Option String) : Database Value :=
  executing sql arguments dialect fun cursor => pure cursor.reply.affected

/-! ## Rows -/

/-- The names under which the columns of a reply are decoded. -/
def columnNames (reply : Reply) : List String :=
  reply.columns.map outputName

/-- The named values of a row; of columns with one name, the last one counts. -/
def namedRow (names : List String) (row : List Value) : List (String × Value) :=
  Entries.putAll [] (names.zip row)

/-- Decode the named values of a row that a statement gave. -/
def decodeNamed (decoder : Decoder α) (sql : String) (row : List (String × Value)) :
    Except Failure α :=
  (decoder row).mapError (.ofIssues fun issues => .undecodable issues sql)

/-- Decode a row that a statement gave. -/
def decodeRow (decoder : Decoder α) (sql : String) (names : List String) (row : List Value) :
    Except Failure α :=
  decodeNamed decoder sql (namedRow names row)

/-- The raw rows that a statement gives, with the names of their columns. -/
structure RawRows where
  names : List String
  rows : List (List Value)

/-- Execute a statement and fetch rows on the same cursor. -/
def fetchRaw
    (fetch : Cursor → Connection → Except Fault (List (List Value) × Cursor) × Connection)
    (sql : String)
    (arguments : List Value)
    (dialect : Option String) :
    Database RawRows :=
  executing sql arguments dialect fun cursor => do
    let (rows, _) ← driver (some sql) (fetch cursor)
    return ⟨columnNames cursor.reply, rows⟩

/-- Every row that a statement gives, decoded; the first row that does not fit is reported. -/
def fetchAll
    (decoder : Decoder α)
    (sql : String)
    (arguments : List Value)
    (dialect : Option String) :
    Database (List α) := do
  let raw ← fetchRaw Cursor.fetchAll sql arguments dialect
  require (raw.rows.mapM (decodeRow decoder sql raw.names))

/-- The decoded row among at most one raw row. -/
def onlyRow? (decoder : Decoder α) (sql : String) (raw : RawRows) : Except Failure (Option α) :=
  match raw.rows with
  | [] => .ok none
  | [row] => (decodeRow decoder sql raw.names row).map some
  | _ :: _ :: _ => .error (.multipleRows sql)

/-- The only row that a statement gives, if there is one. -/
def fetchOptional
    (decoder : Decoder α)
    (sql : String)
    (arguments : List Value)
    (dialect : Option String) :
    Database (Option α) := do
  let raw ← fetchRaw (Cursor.fetchMany 2) sql arguments dialect
  require (onlyRow? decoder sql raw)

/-- The only row that a statement gives, which has to be there. -/
def fetchOne
    (decoder : Decoder α)
    (sql : String)
    (arguments : List Value)
    (dialect : Option String) :
    Database α := do
  match ← fetchOptional decoder sql arguments dialect with
  | some value => return value
  | none => throw (.rowNotFound .fetched sql)

/-- The named values of the next row of a cursor, which has to be there. -/
def fetchRow (cursor : Cursor) (sql : String) : Database (List (String × Value) × Cursor) := do
  match ← driver (some sql) cursor.fetchOne with
  | (some row, rest) => return (namedRow (columnNames cursor.reply) row, rest)
  | (none, _) => throw (.rowNotFound .fetched sql)

/-- The values that a statement binds. -/
def bound
    (statement : Statement)
    (fields arguments : List (String × Value)) :
    Except Failure (List Value) :=
  (statement.bind (fun name => fields.lookup name) arguments).mapError Failure.ofBindError

end Database

end SqlMapping
