import SqlMapping.Entity.Row

/-!
# Patching entities

A patch is written to the row of an identifier by one statement.  To patch an entity, the patch
has to belong to the entity's class and to be generated for its backend; the patch is written
to the entity's row and only then applied to the entity.
-/

namespace SqlMapping

open Database (require bound)

namespace PatchRow

/-- The parts that patch classes hold. -/
def parts : List String :=
  ["patch_declaration", "target_path", "patch_schema", "compiled", "backend"].map
    TableClass.specialName

/-- Assign a value to a field of a patch. -/
def assign (row : PatchRow) (name : String) (value : Value) : Except Failure PatchRow :=
  (row.model.assign parts row.fields name value).map fun fields => { row with fields := fields }

/-- Refuse to call a field of a patch, which hides a member of its name. -/
def refuseField (row : PatchRow) (member : String) : Except Failure Unit :=
  match row.fields.lookup member with
  | some value => .error (.mismatch (.notCallable value.typeName))
  | none => .ok ()

/-- Write a patch to the row of an identifier. -/
def write (row : PatchRow) (compiled : CompiledPatch) (identifier : Value) : Database Unit := do
  let statement := compiled.plan.statement
  let arguments ← require (bound statement row.fields [("id", identifier)])
  let _ ← Database.execute statement.sql arguments (some compiled.backend.name)

/-- Assign the values of a patch to the fields of an object. -/
def applyTo
    {α : Type}
    (row : PatchRow)
    (compiled : CompiledPatch)
    (assign : α → String → Value → Except Failure α)
    (object : α) :
    Assigned α :=
  .ofNames assign (fieldValue row.fields) object
    (compiled.plan.schema.fields.map PatchField.name)

end PatchRow

namespace Entity

/-- Check that a compiled patch is for the backend of an entity. -/
def checkBackend (entity : Entity) (patchName : String) (compiled : CompiledPatch) :
    Except Failure Unit := do
  let table ← entity.table.compiledOr TableClass.backendPart
  let dialect := compiled.plan.statement.dialect
  if dialect = table.backend.name then return ()
  else throw (.mismatch (.otherBackend patchName dialect entity.table.name table.backend.name))

/--
Write a patch that belongs to the class of an entity, and then apply it.  Both are done by members
of the patch, which its fields may hide.
-/
def patch (entity : Entity) (row : PatchRow) (patchName : String) (compiled : CompiledPatch) :
    Database (Assigned Entity) := do
  require (entity.checkBackend patchName compiled)
  let identifier ← require entity.identifier
  require (row.refuseField "patch_row")
  row.write compiled identifier
  require (row.refuseField "apply_to")
  return row.applyTo compiled assign entity

end Entity

end SqlMapping
