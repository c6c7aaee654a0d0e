import SqlMapping.Report
import SqlMapping.Statement.SelectList

/-!
# Statements of a table

The statements of a table: reading one row, all rows or a page of rows; writing a whole row or
a single column; deleting a row; looking rows up by a field; and inserting a row.

A backend that can return columns from an insert answers with the identifier and every other
generated column.  For any other backend the insert is followed by a query for the generated
identifier, if the database generates it, and by a query for the other generated columns.
-/

namespace SqlMapping

/-- The statements that make up an insert. -/
structure InsertPlan where
  /-- The insert itself, which binds the supplied fields. -/
  statement : Statement
  /-- Whether the insert yields a row. -/
  returning : Bool
  /-- The names of the fields that are read back. -/
  returnedFields : List String
  /-- The query for the generated identifier. -/
  lastInsertId : Option Statement
  /-- The query for the other generated columns. -/
  fetchDefaults : Option Statement

/-- All statements of an insert, in order of execution. -/
def InsertPlan.statements (plan : InsertPlan) : List Statement :=
  plan.statement :: (plan.lastInsertId.toList ++ plan.fetchDefaults.toList)

/-- A statement that writes one column. -/
structure Setter where
  functionName : String
  fieldName : String
  statement : Statement

/-- A statement that looks rows up by one field. -/
structure Getter where
  kind : LookupKind
  functionName : String
  fieldName : String
  statement : Statement
  argumentType : Value

/-- Every statement of a table. -/
structure TablePlan where
  schema : TableSchema
  columns : String
  get : Statement
  all : Statement
  paginated : Statement
  /-- Writing a whole row; absent when the identifier is the only field. -/
  update : Option Statement
  delete : Option Statement
  insert : Option InsertPlan
  setters : List Setter
  getters : List Getter

/-- The name of the backend that the statements were generated for. -/
def TablePlan.dialect (plan : TablePlan) : String := plan.get.dialect

namespace TableSchema

/-- The restriction to the row of an identifier. -/
def whereIdentifier (schema : TableSchema) : Template :=
  [.word " WHERE ", .identifier schema.identifier.column, .word " = ", .placeholder]

/-- Selecting fields from the table. -/
def selectFrom (schema : TableSchema) (fields : List Field) : Template :=
  .word "SELECT " :: selectList fields ++ [.word " FROM ", .identifier schema.table]

/-- Reading the row of an identifier. -/
def getTemplate (schema : TableSchema) : Template :=
  schema.selectFrom schema.fields ++ schema.whereIdentifier

/-- Reading every row. -/
def allTemplate (schema : TableSchema) : Template :=
  schema.selectFrom schema.fields

/-- Reading a page of rows. -/
def paginatedTemplate (schema : TableSchema) : Template :=
  schema.selectFrom schema.fields
    ++ [.word " LIMIT ", .placeholder, .word " OFFSET ", .placeholder]

/-- Writing some columns of the row of an identifier. -/
def updateTemplate (schema : TableSchema) (columns : List String) : Template :=
  [.word "UPDATE ", .identifier schema.table, .word " SET "]
    ++ assignments columns ++ schema.whereIdentifier

/-- Deleting the row of an identifier. -/
def deleteTemplate (schema : TableSchema) : Template :=
  [.word "DELETE FROM ", .identifier schema.table] ++ schema.whereIdentifier

/-- The test that a lookup makes. -/
def lookupCondition (kind : LookupKind) (field : Field) : Template :=
  match kind with
  | .anyOf => [.membership field.column]
  | .one | .optional | .many => [.identifier field.column, .word " = ", .placeholder]

/-- Reading the rows that a lookup finds. -/
def lookupTemplate (schema : TableSchema) (kind : LookupKind) (field : Field) : Template :=
  schema.selectFrom schema.fields ++ .word " WHERE " :: lookupCondition kind field

/-- Inserting a row of the supplied fields. -/
def insertTemplate (schema : TableSchema) : Template :=
  match schema.insertFields with
  | [] => [.word "INSERT INTO ", .identifier schema.table, .word " DEFAULT VALUES"]
  | fields =>
    [.word "INSERT INTO ", .identifier schema.table, .word " ("]
      ++ Template.separated (fields.map fun field => [.identifier field.column])
      ++ .word ") VALUES ("
        :: Template.separated (fields.map fun _ => [.placeholder]) ++ [.word ")"]

/-- The generated fields other than the identifier. -/
def otherDefaults (schema : TableSchema) : List Field :=
  schema.defaultFields.filter fun field => !field.isIdentifier

/-- Generate the statements of an insert. -/
def insertPlan (schema : TableSchema) (backend : Backend) : Except BuildError InsertPlan := do
  let params := schema.insertFields.map Field.name
  let defaults := schema.otherDefaults
  if backend.supportsReturning then
    let returned := schema.identifier :: defaults
    return {
      statement :=
        .ofTemplate backend
          (schema.insertTemplate ++ .word " RETURNING " :: selectList returned) params
      returning := true
      returnedFields := returned.map Field.name
      lastInsertId := none
      fetchDefaults := none }
  else
    let lastInsertId : Option Statement ←
      if schema.identifier.isDefaultGenerated then
        match backend.lastInsertId with
        | some sql => pure (some ⟨sql, [], backend.name⟩)
        | none => throw (.compilation (.noGeneratedIdentifier schema.entity backend.name))
      else pure none
    let fetchDefaults : Option Statement :=
      if defaults.isEmpty then none
      else
        some (.ofTemplate backend (schema.selectFrom defaults ++ schema.whereIdentifier) ["$id"])
    return {
      statement := .ofTemplate backend schema.insertTemplate params
      returning := false
      returnedFields := defaults.map Field.name
      lastInsertId := lastInsertId
      fetchDefaults := fetchDefaults }

/-- Generate the setters of the fields that have one. -/
def setters (schema : TableSchema) (backend : Backend) : List Setter :=
  schema.fields.filterMap fun field =>
    field.setterName.map fun name =>
      { functionName := schema.accessorName name
        fieldName := field.name
        statement :=
          .ofTemplate backend (schema.updateTemplate [field.column]) ["$value", "$id"] }

/-- Generate one lookup. -/
def getter
    (schema : TableSchema)
    (backend : Backend)
    (field : Field)
    (kind : LookupKind)
    (spec : LookupSpec) :
    Getter where
  kind := kind
  functionName := schema.accessorName spec.functionName
  fieldName := field.name
  statement := .ofTemplate backend (schema.lookupTemplate kind field) ["$by"]
  argumentType := spec.argumentType

/-- Every lookup of the table with its field, in the order of fields and kinds. -/
def lookups (schema : TableSchema) : List (Field × LookupKind × LookupSpec) :=
  schema.fields.flatMap fun field =>
    field.lookups.declared.map fun (kind, spec) => (field, kind, spec)

/-- Generate the lookups of all fields. -/
def getters (schema : TableSchema) (backend : Backend) : List Getter :=
  schema.lookups.map fun (field, kind, spec) => schema.getter backend field kind spec

/-- Generate the statement that writes a whole row. -/
def update? (schema : TableSchema) (backend : Backend) : Option Statement :=
  let fields := schema.fieldsExceptIdentifier
  if fields.isEmpty then none
  else
    some
      (.ofTemplate backend (schema.updateTemplate (fields.map Field.column))
        (fields.map Field.name ++ [schema.identifier.name]))

/-- Generate the statements of an insert, if rows can be inserted. -/
def insertPlan? (schema : TableSchema) (backend : Backend) :
    Except BuildError (Option InsertPlan) :=
  match schema.insertable with
  | none => .ok none
  | some _ => (schema.insertPlan backend).map some

/-- Note a statement under the name of its operation. -/
def noteStatement (schema : TableSchema) (operation : String) (statement : Statement) : Notice :=
  .statement schema.entity operation statement.sql

/-- The notices about a table's statements, lookups first. -/
def planNotices (schema : TableSchema) (plan : TablePlan) : List Notice :=
  (schema.lookups.zip plan.getters).map
      (fun ((_, _, spec), getter) => schema.noteStatement spec.functionName getter.statement)
    ++ [schema.noteStatement "get" plan.get, schema.noteStatement "all" plan.all,
      schema.noteStatement "paginated" plan.paginated]
    ++ plan.update.toList.map (schema.noteStatement "update")
    ++ plan.delete.toList.map (schema.noteStatement "delete")
    ++ ((plan.insert.map InsertPlan.statements).getD []).map (schema.noteStatement "insert")

/-- Generate every statement of a table. -/
def compile (schema : TableSchema) (backend : Backend) : Report TablePlan := do
  let insert ← Report.ofExcept (schema.insertPlan? backend)
  let plan : TablePlan :=
    { schema := schema
      columns := columnList backend schema.fields
      get := .ofTemplate backend schema.getTemplate ["$id"]
      all := .ofTemplate backend schema.allTemplate []
      paginated := .ofTemplate backend schema.paginatedTemplate ["$limit", "$offset"]
      update := schema.update? backend
      delete :=
        if schema.deletable then some (.ofTemplate backend schema.deleteTemplate ["$id"])
        else none
      insert := insert
      setters := schema.setters backend
      getters := schema.getters backend }
  ⟨schema.planNotices plan, .ok plan⟩

end TableSchema

end SqlMapping
