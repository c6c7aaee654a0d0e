import SqlMapping.Schema.Table

/-!
# Patch schemas from declarations

A patch names its table, its identifier column and the entity it belongs to.  Where the
schema of that entity is known, every field of the patch has to be one of the entity's fields
other than the identifier, and the backend of the entity is the default.  A schema without a
backend of its own stands for the configured one, whatever the caller chose.
-/

namespace SqlMapping

namespace PatchSchema

/-- The dotted path of the entity that an option value names. -/
def targetPathOf : Value → String
  | .text path => path
  | .type reference => reference.path?.getD ""
  | _ => ""

/--
The backend that options name, or else the one that the target's schema stands for, or else, where
no schema is known, the one chosen by the caller.
-/
def chosenBackend
    (options : Options)
    (target : Option TableSchema)
    (choice : BackendChoice) :
    BackendChoice :=
  match options.text? "backend", target with
  | some key, _ => .registered key
  | none, some schema => .ofKey? schema.backend
  | none, none => choice

/-- Whether a name is that of a field other than the identifier. -/
def isPatchable (target : TableSchema) (name : String) : Bool :=
  match target.field? name with
  | some field => !field.isIdentifier
  | none => false

/-- Check the options of a patch field and its place in the target. -/
def checkField
    (workspace : Workspace)
    (backend : Backend)
    (target : Option TableSchema)
    (entity : String)
    (declaration : FieldDeclaration) :
    Report PatchField := do
  let location := entity ++ "." ++ declaration.name
  let options ← Report.ofExcept (OptionGrammar.patchField.collect location declaration.attributes)
  match target with
  | some schema =>
    unless isPatchable schema declaration.name do
      throw (.unknownPatchField declaration.name schema.entity location)
  | none => Report.pure ()
  let column := (options.text? "column").getD declaration.name
  let reserved := backend.isReserved column
  if reserved then
    warnReserved workspace.settings backend location column
  return {
    name := declaration.name
    column := column
    isCustomType := options.flag "custom_type"
    isReserved := reserved
    byReference := options.flag "by_ref" }

/-- Check the fields of a patch in order. -/
def checkFields
    (workspace : Workspace)
    (backend : Backend)
    (target : Option TableSchema)
    (entity : String) :
    List FieldDeclaration → Report (List PatchField)
  | [] => .pure []
  | declaration :: rest => do
    let field ← checkField workspace backend target entity declaration
    let fields ← checkFields workspace backend target entity rest
    return field :: fields

/-- The target of a patch, which has to be given. -/
def requiredTarget (options : Options) (location : String) : Except BuildError Value :=
  match options.target? "table" with
  | some value => .ok value
  | none => .error (.missingAttribute "table" location)

/-- Check a patch declaration. -/
def ofDeclaration
    (workspace : Workspace)
    (choice : BackendChoice)
    (target : Option TableSchema)
    (declaration : Declaration) :
    Report PatchSchema := do
  let entity := declaration.name
  let options ← Report.ofExcept (OptionGrammar.patch.collect entity declaration.attributes)
  let table ← Report.ofExcept (TableSchema.required options "table_name" entity)
  let targetValue ← Report.ofExcept (requiredTarget options entity)
  let identifierColumn ← Report.ofExcept (TableSchema.required options "id" entity)
  let backend ← Report.ofExcept (workspace.resolve (chosenBackend options target choice))
  let fields ← checkFields workspace backend target entity declaration.fields
  Report.note (.patchParsed entity table fields.length)
  return {
    entity := entity
    targetTable := table
    targetPath := targetPathOf targetValue
    identifierColumn := identifierColumn
    fields := fields
    backend := some backend.name }

end PatchSchema

end SqlMapping
