import SqlMapping.Backend.Registry
import SqlMapping.Declaration
import SqlMapping.Entries

/-!
# Declarations of existing tables

The catalog of a database describes the tables there are.  A catalog table with exactly one
key column gives a declaration: every column becomes a field of its own name, the key becomes
the identifier, and columns that the database fills in are marked as generated.  A table with
generated columns can be inserted into unless the caller says otherwise.

A catalog that is read back from a database went through its creation: tables and columns need
names of their own, tables need columns, and some types come back as others.
-/

namespace SqlMapping

/-- The type of a column in a catalog. -/
inductive ColumnType where
  | integer
  | text
  | boolean
  | float
  | numeric
  | date
  | datetime
  | time
  | bytes
  | uuid
  | json
  | interval
  /-- Another type of a driver, whose values have a declared type. -/
  | valued (type : TypeRef)
  /-- A type that has no counterpart among the declared types. -/
  | unmapped
deriving DecidableEq

/-- The declared type of the fields of a column, if there is one. -/
def ColumnType.fieldType? : ColumnType → Option TypeRef
  | .integer => some .integer
  | .text => some .text
  | .boolean => some .boolean
  | .float => some .float
  | .numeric => some .decimal
  | .date => some .date
  | .datetime => some .datetime
  | .time => some .time
  | .bytes => some .bytes
  | .uuid => some .uuid
  | .json => some .dictionary
  | .interval => some .duration
  | .valued type => some type
  | .unmapped => none

/-- The type that is read back for a column of a type. -/
def ColumnType.stored : ColumnType → ColumnType
  | .uuid => .text
  | .interval => .datetime
  | other => other

/-- Whether the database numbers a key column by itself. -/
inductive Numbering where
  /-- It does if the column holds integers. -/
  | automatic
  | always
  | never
deriving DecidableEq

/-- A column as the catalog describes it. -/
structure CatalogColumn where
  name : String
  type : ColumnType
  isKey : Bool := false
  numbering : Numbering := .automatic
  /-- Whether the database has a default for the column. -/
  hasDefault : Bool := false

/-- A table as the catalog describes it. -/
structure CatalogTable where
  name : String
  columns : List CatalogColumn

/-- Options by key, in order. -/
abbrev OptionEntries := List (String × Value)

/-- Why a catalog gives no declarations. -/
inductive CatalogError where
  /-- The table has no key column, or more than one. -/
  | notOneKey (table : String) (found : Nat)
  /-- The catalog has no table of a requested name. -/
  | unknownTable (name : String)
  /-- Two tables have one name. -/
  | repeatedTable
  /-- Two columns of a table have one name. -/
  | repeatedColumn
  /-- The database refuses to create a table. -/
  | notCreated
  /-- A column has a type that no table can be created with. -/
  | unmappedColumn
  /-- An option of a table is something that is given besides the options. -/
  | repeatedOption (name : String)
  /-- The options name the table that they are options of. -/
  | repeatedSubject
  /-- The name of the entity is none. -/
  | invalidName (issues : List Issue)
deriving DecidableEq

/-- The wording of a failed derivation. -/
def CatalogError.message : CatalogError → String
  | .notOneKey table found =>
    "table '" ++ table ++ "' needs a single-column primary key, found " ++ toString found
  | .repeatedOption name =>
    "brickorm.schema.converters.declaration_from_sqlalchemy() got multiple values for "
      ++ "keyword argument '" ++ name ++ "'"
  | .repeatedSubject =>
    "declaration_from_sqlalchemy() got multiple values for argument 'table'"
  | .unmappedColumn => "get_col_spec"
  | .unknownTable _ | .repeatedTable | .repeatedColumn | .notCreated | .invalidName _ => ""

namespace CatalogColumn

/-- Whether the database produces the value of a column on insert. -/
def isGenerated (column : CatalogColumn) : Bool :=
  column.hasDefault
    || (column.isKey
      && match column.numbering with
        | .always => true
        | .automatic => column.type.fieldType? = some .integer
        | .never => false)

/-- The field of a column; further options follow the mark of a generated column. -/
def declaration (column : CatalogColumn) (options : OptionEntries) : FieldDeclaration where
  name := column.name
  type := (column.type.fieldType?.map Value.type).getD .null
  attributes :=
    (if column.isGenerated then [{ key := "default" }] else [])
      ++ options.map fun (key, value) => ⟨key, value⟩

end CatalogColumn

namespace CatalogTable

/-- The key columns of a table, in order. -/
def keyColumns (table : CatalogTable) : List CatalogColumn :=
  table.columns.filter CatalogColumn.isKey

/-- The name of an entity: the capitalized parts of the table name between underscores. -/
def entityName (table : String) : String :=
  String.join ((table.splitOn "_").map Text.capitalize)

/-- The options of a table before the caller's options replace them. -/
def derivedOptions (table : CatalogTable) (key : CatalogColumn) : OptionEntries :=
  [("table", .text table.name), ("id", .text key.name)]
    ++ if table.columns.any CatalogColumn.isGenerated then [("insertable", .bool true)] else []

/--
The declaration of a table.  The entity is named after the table unless a name is given that is
not empty; options of fields are added, and options of the table replace the derived ones.
-/
def declaration
    (table : CatalogTable)
    (name : Option String)
    (fieldOptions : List (String × OptionEntries))
    (tableOptions : OptionEntries) :
    Except CatalogError Declaration :=
  match table.keyColumns with
  | [key] =>
    let options := Entries.putAll (table.derivedOptions key) tableOptions
    .ok
      { name := (name.filter fun name => !name.isEmpty).getD (entityName table.name)
        attributes := options.map fun (key, value) => ⟨key, value⟩
        fields := table.columns.map fun column =>
          column.declaration ((fieldOptions.lookup column.name).getD []) }
  | keys => .error (.notOneKey table.name keys.length)

/-- The option that gives the name of the entity, unless the name is given besides. -/
def nameOption : String := "name"

/-- The name of the entity that a value gives; values that count as false give none. -/
def givenName (value : Option Value) : Except CatalogError (Option String) :=
  match value with
  | none => .ok none
  | some value =>
    if value.truthy then
      match Checked.within nameOption (Checked.text value) with
      | .ok name => .ok (some name)
      | .error issues => .error (.invalidName issues)
    else .ok none

/-- Refuse columns of one name. -/
def checkColumns (table : CatalogTable) : Except CatalogError Unit :=
  if (table.columns.map CatalogColumn.name).Nodup then .ok () else .error .repeatedColumn

/--
The declaration that is asked for with options of the table in which the name of the entity may
be given too; what is given besides cannot be given as an option again.
-/
def declarationFor
    (table : CatalogTable)
    (name : Option Value)
    (fieldOptions : List (String × OptionEntries))
    (tableOptions : OptionEntries) :
    Except CatalogError Declaration := do
  table.checkColumns
  let taken := "field_options" :: if name.isSome then [nameOption] else []
  match tableOptions.find? fun option => taken.contains option.1 with
  | some option => throw (.repeatedOption option.1)
  | none =>
    if (tableOptions.lookup "table").isSome then throw .repeatedSubject
    else
      let options := tableOptions.filter fun option => option.1 ≠ nameOption
      let chosen := name.or (tableOptions.lookup nameOption)
      let plain ← table.declaration none fieldOptions options
      let given ← givenName chosen
      return { plain with name := given.getD plain.name }

/-! ## Creating tables -/

/-- Names that a database does not tell apart have one folded form. -/
def folded (name : String) : String := String.ofList (name.toList.map Char.toLower)

/-- How the names of tables begin that belong to the database itself. -/
def reservedStart : String := "sqlite_"

/-- Create a table in a database that has tables of some folded names. -/
def create (existing : List String) (table : CatalogTable) : Except CatalogError Unit :=
  let columns := table.columns.map fun column => folded column.name
  if table.columns.any fun column => column.type = .unmapped then .error .unmappedColumn
  else if table.columns.isEmpty || reservedStart.isPrefixOf (folded table.name)
      || existing.contains (folded table.name) || !decide columns.Nodup then .error .notCreated
  else .ok ()

/-- Create tables one after the other. -/
def createAll (existing : List String) : List CatalogTable → Except CatalogError Unit
  | [] => .ok ()
  | table :: rest => do
    table.create existing
    createAll (folded table.name :: existing) rest

/-- Describe tables one after the other, each of a new name. -/
def describeAll (existing : List String) : List CatalogTable → Except CatalogError Unit
  | [] => .ok ()
  | table :: rest => do
    if existing.contains table.name then throw .repeatedTable
    table.checkColumns
    describeAll (table.name :: existing) rest

/-- A table as it is read back from a database. -/
def stored (table : CatalogTable) : CatalogTable :=
  { table with
    columns := table.columns.map fun column => { column with type := column.type.stored } }

end CatalogTable

namespace Declaration

/-- The tables of a catalog that have one of some names, or all of them. -/
def requestedTables (catalog : List CatalogTable) :
    Option (List String) → Except CatalogError (List CatalogTable)
  | none => .ok catalog
  | some names =>
    match names.find? fun name => !(catalog.map CatalogTable.name).contains name with
    | some name => .error (.unknownTable name)
    | none => .ok (catalog.filter fun table => names.contains table.name)

/--
The declarations of the requested tables of a catalog that have one key column, in order of
their names.
-/
def ofCatalog (catalog : List CatalogTable) (names : Option (List String)) :
    Except CatalogError (List Declaration) := do
  let requested ← requestedTables catalog names
  let sorted :=
    (Registry.sortTexts (requested.map CatalogTable.name)).filterMap fun name =>
      requested.find? fun table => table.name = name
  (sorted.filter fun table => table.keyColumns.length = 1).mapM fun table =>
    table.declaration none [] []

/-- The declarations of tables that are created in an empty database and read back. -/
def ofCreated (tables : List CatalogTable) (names : Option (List String)) :
    Except CatalogError (List Declaration) := do
  CatalogTable.describeAll [] tables
  CatalogTable.createAll [] tables
  ofCatalog (tables.map CatalogTable.stored) names

end Declaration

end SqlMapping
