import SqlMapping.Entity.Row

/-!
# Inserting rows

A row of an insert model is inserted, and the entity that stands for the new row is read from
the values of the row overlaid with what the database generated.  A backend that can return
columns gives these in one statement.  For any other backend the insert and the queries after
it are one unit of work.  The entity is read after that.
-/

namespace SqlMapping

open Database (require bound)

namespace InsertRow

/-- The value of the first column of the next row. -/
def firstColumn (sql : String) (cursor : Cursor) : Database Value := do
  let (row, _) ← Database.driver (some sql) cursor.fetchOne
  match row with
  | some (value :: _) => return value
  | some [] => throw .emptyRow
  | none => throw (.mismatch .noRow)

/-- Insert a row with a statement that returns the generated columns. -/
def insertReturning (row : InsertRow) (plan : InsertPlan) (dialect : Option String) :
    Database (List (String × Value)) :=
  Database.withCursor dialect fun cursor => do
    let arguments ← require (bound plan.statement row.fields [])
    let cursor ← Database.run cursor plan.statement.sql arguments
    let (generated, _) ← Database.fetchRow cursor plan.statement.sql
    return generated

/-- The generated identifier, if the database generates it. -/
def fetchIdentifier (name : String) (cursor : Cursor) :
    Option Statement → Database (List (String × Value))
  | none => pure []
  | some statement => do
    let cursor ← Database.run cursor statement.sql []
    let value ← firstColumn statement.sql cursor
    return [(name, value)]

/-- The other generated columns, if there are any. -/
def fetchDefaults (identifier : Value) (cursor : Cursor) :
    Option Statement → Database (List (String × Value))
  | none => pure []
  | some statement => do
    let arguments ← require (bound statement [] [("id", identifier)])
    let cursor ← Database.run cursor statement.sql arguments
    let (generated, _) ← Database.fetchRow cursor statement.sql
    return generated

/-- Insert a row and query what the database generated. -/
def insertThenFetch
    (row : InsertRow)
    (plan : InsertPlan)
    (identifierName : String)
    (dialect : Option String) :
    Database (List (String × Value)) :=
  Database.withCursor dialect fun cursor => do
    let arguments ← require (bound plan.statement row.fields [])
    let cursor ← Database.run cursor plan.statement.sql arguments
    let generated ← fetchIdentifier identifierName cursor plan.lastInsertId
    let identifier :=
      ((generated.lookup identifierName).orElse fun _ => row.fields.lookup identifierName).getD
        .null
    let others ← fetchDefaults identifier cursor plan.fetchDefaults
    return Entries.putAll generated others

/-- What the database generates for a row that is inserted. -/
def generate (row : InsertRow) (compiled : CompiledTable) (plan : InsertPlan) :
    Database (List (String × Value)) :=
  Database.acquire fun endpoint =>
    if plan.returning then row.insertReturning plan compiled.dialect
    else
      Database.unitOfWork endpoint compiled.backend.beginSql
        (row.insertThenFetch plan compiled.plan.schema.identifier.name compiled.dialect)

/-- The entity that stands for an inserted row. -/
structure Inserted where
  entity : Entity
  /-- The values that the database generated. -/
  generated : List (String × Value)

/-- Insert a row. -/
def insert (row : InsertRow) : Database Inserted := do
  let compiled ← require row.table.statements
  match compiled.plan.insert with
  | none => throw (.missingMember "returning")
  | some plan =>
    let generated ← row.generate compiled plan
    let entity ← require (Database.decodeNamed row.table.decoder plan.statement.sql
      (Entries.putAll row.fields generated))
    return ⟨entity, generated⟩

/-- The part of an insert model that tells whose rows it inserts. -/
def parts : List String := [TableClass.specialName "entity"]

/-- Assign a value to a field of a row. -/
def assign (row : InsertRow) (name : String) (value : Value) : Except Failure InsertRow :=
  (row.model.assign parts row.fields name value).map fun fields => { row with fields := fields }

end InsertRow

end SqlMapping
