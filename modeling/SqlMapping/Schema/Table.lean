import SqlMapping.Report
import SqlMapping.Schema
import SqlMapping.Schema.Options

/-!
# Table schemas from declarations

A declaration is checked from the outside in: its own options, the backend, the mandatory
options, the identifier, then each field with its options, and last what concerns several
fields at once.  The first violation found ends the check.
-/

namespace SqlMapping

/-- Warn about a reserved name, unless warnings are switched off. -/
def warnReserved (settings : Settings) (backend : Backend) (location identifier : String) :
    Report Unit :=
  if settings.warnReserved then .note (.reservedName location identifier backend.name)
  else .pure ()

namespace LookupSpec

/-- The type of a lookup argument: descriptive texts do not check anything. -/
def checkedType : Value → Value
  | .text _ => .null
  | type => type

/-- The type of a sequence whose items have a declared type, if that is a type at all. -/
def sequenceType : Value → Value
  | .null => .null
  | .text _ => .null
  | .type item => .type (.sequence item)
  | _ => .type (.sequence .anything)

/-- The lookup that an option describes, with defaults for what it leaves open. -/
def ofOption (defaultName : String) (defaultType : Value) (option : LookupOption) :
    LookupSpec where
  functionName := (option.name.filter fun name => !name.isEmpty).getD defaultName
  argumentType :=
    checkedType (if option.argumentType.isNull then defaultType else option.argumentType)

end LookupSpec

namespace Field

/-- The properties of a field that its options determine. -/
def ofOptions
    (backend : Backend)
    (identifierName : String)
    (declaration : FieldDeclaration)
    (options : Options) :
    Field :=
  let column := (options.text? "column").getD declaration.name
  let lookup (key defaultName : String) (defaultType : Value) :=
    (options.lookup? key).map (LookupSpec.ofOption defaultName defaultType)
  { name := declaration.name
    type := declaration.type
    column := column
    isIdentifier := declaration.name == identifierName
    isCustomType := options.flag "custom_type"
    isDefaultGenerated := options.flag "default"
    isReserved := backend.isReserved declaration.name || backend.isReserved column
    lookups :=
      { one := lookup "get_one" ("by_" ++ declaration.name) declaration.type
        optional := lookup "get_optional" ("by_" ++ declaration.name) declaration.type
        many := lookup "get_many" ("by_" ++ declaration.name) declaration.type
        anyOf :=
          lookup "get_by_any" ("get_by_any_" ++ declaration.name)
            (LookupSpec.sequenceType declaration.type) }
    setterName :=
      (options.functionName? "set").map fun name => name.getD ("set_" ++ declaration.name)
    byReference := options.flag "by_ref"
    extra := declaration.extra }

/-- The name to warn about: the field's own name if it is reserved, or else its column. -/
def reservedName (backend : Backend) (field : Field) : String :=
  if backend.isReserved field.name then field.name else field.column

/-- Check the options of a field. -/
def ofDeclaration
    (workspace : Workspace)
    (backend : Backend)
    (entity identifierName : String)
    (declaration : FieldDeclaration) :
    Report Field := do
  let location := entity ++ "." ++ declaration.name
  let options ← Report.ofExcept (OptionGrammar.tableField.collect location declaration.attributes)
  let field := Field.ofOptions backend identifierName declaration options
  if field.isReserved then
    warnReserved workspace.settings backend location (field.reservedName backend)
  return field

end Field

namespace TableSchema

/-- The first of some names that has been seen before or occurs twice. -/
def firstRepeated? : (seen : List String) → List String → Option String
  | _, [] => none
  | seen, name :: rest =>
    if seen.contains name then some name else firstRepeated? (name :: seen) rest

/-- Refuse a generated name that an earlier function of the same table has. -/
def checkGeneratedNames (entity : String) :
    (seen : List String) → List Field → Except BuildError Unit
  | _, [] => .ok ()
  | seen, field :: rest =>
    match firstRepeated? seen field.generatedNames with
    | some name => .error (.nameCollision name (entity ++ "." ++ field.name))
    | none => checkGeneratedNames entity (field.generatedNames ++ seen) rest

/-- Refuse a default-generated field of a table that rows are not inserted into. -/
def checkDefaults (entity : String) (insertable : Option InsertSpec) (fields : List Field) :
    Except BuildError Unit :=
  match insertable, fields.find? Field.isDefaultGenerated with
  | none, some field => .error (.defaultWithoutInsertable field.name entity)
  | _, _ => .ok ()

/-- The insert model that an option describes. -/
def insertSpec (entity : String) (option : InsertOption) : InsertSpec where
  modelName := (option.name.filter fun name => !name.isEmpty).getD ("Insert" ++ entity)
  config := option.config

/-- The value of a mandatory option. -/
def required (options : Options) (key location : String) : Except BuildError String :=
  match options.text? key with
  | some value => .ok value
  | none => .error (.missingAttribute key location)

/-- Entities whose name begins with an underscore are private. -/
def visibilityOf (entity : String) : Visibility :=
  if entity.toList.head? = some '_' then .private else .public

/-- The backend that options name, or else the one chosen by the caller. -/
def chosenBackend (options : Options) (choice : BackendChoice) : BackendChoice :=
  match options.text? "backend" with
  | some key => .registered key
  | none => choice

/-- Check the fields of a declaration in order. -/
def checkFields
    (workspace : Workspace)
    (backend : Backend)
    (entity identifierName : String) :
    List FieldDeclaration → Report (List Field)
  | [] => .pure []
  | declaration :: rest => do
    let field ← Field.ofDeclaration workspace backend entity identifierName declaration
    let fields ← checkFields workspace backend entity identifierName rest
    return field :: fields

/-- Check a table declaration. -/
def ofDeclaration
    (workspace : Workspace)
    (choice : BackendChoice)
    (declaration : Declaration) :
    Report TableSchema := do
  let entity := declaration.name
  let options ← Report.ofExcept (OptionGrammar.table.collect entity declaration.attributes)
  let backend ← Report.ofExcept (workspace.resolve (chosenBackend options choice))
  let table ← Report.ofExcept (required options "table" entity)
  let identifierName ← Report.ofExcept (required options "id" entity)
  unless declaration.fieldNames.contains identifierName do
    throw (.unknownIdentifierField identifierName declaration.fieldNames entity)
  let insertable := (options.insertable? "insertable").map (insertSpec entity)
  let fields ← checkFields workspace backend entity identifierName declaration.fields
  Report.ofExcept (checkDefaults entity insertable fields)
  match fields.find? Field.isIdentifier with
  | none => throw (.unknownIdentifierField identifierName declaration.fieldNames entity)
  | some identifier =>
    let schema : TableSchema :=
      { entity := entity
        visibility := visibilityOf entity
        table := table
        identifier := identifier
        fields := fields
        insertable := insertable
        deletable := options.flag "deletable"
        backend := some backend.name }
    Report.ofExcept (checkGeneratedNames entity [] fields)
    Report.note (.tableParsed entity table fields.length backend.name)
    return schema

end TableSchema

end SqlMapping
