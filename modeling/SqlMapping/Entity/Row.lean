import SqlMapping.Database.Stream
import SqlMapping.Database.UnitOfWork
import SqlMapping.Entity.Assignment
import SqlMapping.Entity.PatchClass

/-!
# Entities and their operations

An entity stands for a row: it has a class and a value for every field of the class.  Its
operations read rows into entities, and write entities or single fields to their rows.  An
operation that changes an entity gives the changed entity only after the statement succeeded.
-/

namespace SqlMapping

/-- A row as an object of a table class. -/
structure Entity where
  table : TableClass
  fields : List (String × Value)

/-- A row that is to be inserted. -/
structure InsertRow where
  /-- The class of the entity that the insert gives. -/
  table : TableClass
  model : Model
  fields : List (String × Value)

/-- The values that a patch writes. -/
structure PatchRow where
  /-- The number of the patch class. -/
  patch : Nat
  model : Model
  fields : List (String × Value)

namespace TableClass

/-- The compiled statements of a class; `part` is the part of them that is asked for. -/
def compiledOr (table : TableClass) (part : String) : Except Failure CompiledTable :=
  match table.compiled? with
  | some compiled => .ok compiled
  | none => .error (.missingMember part)

/-- The compiled statements of a class. -/
def statements (table : TableClass) : Except Failure CompiledTable :=
  table.compiledOr statementsPart

/-- Read the named values of a row into an entity. -/
def decoder (table : TableClass) : Decoder Entity := fun row =>
  (table.model.readEntries row).map fun fields => ⟨table, fields⟩

end TableClass

namespace CompiledTable

/-- The name of the backend, which is the dialect of the statements. -/
def dialect (compiled : CompiledTable) : Option String :=
  some compiled.backend.name

end CompiledTable

namespace Entity

/-- The value of the identifier. -/
def identifier (entity : Entity) : Except Failure Value := do
  let compiled ← entity.table.compiledOr TableClass.schemaPart
  fieldValue entity.fields compiled.plan.schema.identifier.name

/-- Assign a value to a field. -/
def assign (entity : Entity) (name : String) (value : Value) : Except Failure Entity :=
  (entity.table.model.assign TableClass.parts entity.fields name value).map fun fields =>
    { entity with fields := fields }

end Entity

namespace TableClass

open Database (require bound)

/-! ## Reading rows -/

/-- The entity of an identifier. -/
def get (table : TableClass) (identifier : Value) : Database Entity := do
  let compiled ← require table.statements
  let statement := compiled.plan.get
  let arguments ← require (bound statement [] [("id", identifier)])
  Database.fetchOne table.decoder statement.sql arguments compiled.dialect

/-- The stream of all entities. -/
def streamAll (table : TableClass) : Except Failure (Stream Entity) := do
  let compiled ← table.statements
  return {
    request := { sql := compiled.plan.all.sql, arguments := [], dialect := compiled.dialect }
    decoder := table.decoder }

/-- The stream of a page of entities. -/
def streamPage (table : TableClass) (offset limit : Value) : Except Failure (Stream Entity) := do
  let compiled ← table.statements
  let statement := compiled.plan.paginated
  let arguments ← bound statement [] [("limit", limit), ("offset", offset)]
  return {
    request := { sql := statement.sql, arguments := arguments, dialect := compiled.dialect }
    decoder := table.decoder }

/-- All entities. -/
def all (table : TableClass) (batch : Int) : Database (List Entity) := do
  let stream ← require table.streamAll
  stream.collect batch

/-- What a lookup gives. -/
inductive Found where
  | entity (entity : Entity)
  | nothing
  | entities (entities : List Entity)

/-- Check the argument of a lookup. -/
def checkArgument (style : ReadingStyle) (getter : Getter) (argument : Value) :
    Except Failure Value :=
  match getter.argumentType with
  | .type reference => (reference.read style [] argument).mapError .ofInvalid
  | _ => .ok argument

/-- The argument of a lookup as its statement binds it. -/
def lookupArgument (getter : Getter) (backend : Backend) (argument : Value) :
    Except Failure Value :=
  match getter.kind with
  | .anyOf =>
    match argument.members? with
    | some members => .ok (backend.bindMembers members)
    | none => .error (.mismatch (.noMembers argument.typeName))
  | .one | .optional | .many => .ok argument

/-- Look entities up by a field; entities are of the class that is asked. -/
def lookup (table : TableClass) (getter : Getter) (argument : Value) : Database Found := do
  let checked ← require (checkArgument table.own.style getter argument)
  let compiled ← require (table.compiledOr backendPart)
  let member ← require (lookupArgument getter compiled.backend checked)
  let arguments ← require (bound getter.statement [] [("by", member)])
  let sql := getter.statement.sql
  match getter.kind with
  | .one => .entity <$> Database.fetchOne table.decoder sql arguments compiled.dialect
  | .optional =>
    match ← Database.fetchOptional table.decoder sql arguments compiled.dialect with
    | some entity => return .entity entity
    | none => return .nothing
  | .many | .anyOf =>
    .entities <$> Database.fetchAll table.decoder sql arguments compiled.dialect

/-! ## Deleting rows -/

/-- Delete the row of an identifier, which has to be there. -/
def deleteRow (table : TableClass) (identifier : Value) : Database Unit := do
  let compiled ← require table.statements
  match compiled.plan.delete with
  | none => throw (.missingMember "sql")
  | some statement =>
    let arguments ← require (bound statement [] [("id", identifier)])
    let affected ← Database.execute statement.sql arguments compiled.dialect
    if affected.same (.int 0) then
      throw (.rowNotFound (.affected table.name identifier) statement.sql)

end TableClass

namespace Entity

open Database (require bound)

/-! ## Writing entities -/

/-- Write every field but the identifier to the row. -/
def update (entity : Entity) : Database Unit := do
  let compiled ← require entity.table.statements
  match compiled.plan.update with
  | none => return ()
  | some statement =>
    let arguments ← require (bound statement entity.fields [])
    let _ ← Database.execute statement.sql arguments compiled.dialect

/-- Delete the row of an entity. -/
def delete (entity : Entity) : Database Unit := do
  let identifier ← require entity.identifier
  entity.table.deleteRow identifier

/-- Read the row again; the fields take the values that the row has, one after the other. -/
def reload (entity : Entity) : Database (Assigned Entity) := do
  let identifier ← require entity.identifier
  let fresh ← entity.table.get identifier
  return .ofNames assign (fieldValue fresh.fields) entity entity.table.fieldNames

/-- Write a single field to the row, and then to the entity. -/
def set (entity : Entity) (setter : Setter) (type : TypeRef) (value : Value) :
    Database Entity := do
  let checked ← require ((type.read entity.table.own.style [] value).mapError .ofInvalid)
  let identifier ← require entity.identifier
  let arguments ← require (bound setter.statement [] [("value", checked), ("id", identifier)])
  let compiled ← require (entity.table.compiledOr TableClass.backendPart)
  let _ ← Database.execute setter.statement.sql arguments compiled.dialect
  require (entity.assign setter.fieldName checked)

end Entity

end SqlMapping
