import SqlMapping.Value

/-!
# Schemas

A schema is a declaration that has passed every check: its options have become properties of
the table, of its fields and of their lookups, and every default has been filled in.
-/

namespace SqlMapping

/-- How many rows a lookup expects, and how it compares. -/
inductive LookupKind where
  /-- Exactly one row. -/
  | one
  /-- One row or none. -/
  | optional
  /-- Any number of rows. -/
  | many
  /-- Any number of rows whose column is among the members of a set. -/
  | anyOf
deriving DecidableEq

/-- The name of a kind of lookup. -/
def LookupKind.name : LookupKind → String
  | .one => "one"
  | .optional => "optional"
  | .many => "many"
  | .anyOf => "any_of"

/-- A lookup function of a field. -/
structure LookupSpec where
  functionName : String
  /-- The type that the argument is checked against, or nothing. -/
  argumentType : Value

/-- The lookups of a field, at most one of each kind. -/
structure Lookups where
  one : Option LookupSpec := none
  optional : Option LookupSpec := none
  many : Option LookupSpec := none
  anyOf : Option LookupSpec := none

/-- The lookups that a field has, with their kinds, in the order of the kinds. -/
def Lookups.declared (lookups : Lookups) : List (LookupKind × LookupSpec) :=
  (lookups.one.map fun spec => (LookupKind.one, spec)).toList
    ++ (lookups.optional.map fun spec => (LookupKind.optional, spec)).toList
    ++ (lookups.many.map fun spec => (LookupKind.many, spec)).toList
    ++ (lookups.anyOf.map fun spec => (LookupKind.anyOf, spec)).toList

/-- A field of a table. -/
structure Field where
  name : String
  type : Value
  /-- The column that the field maps to. -/
  column : String
  isIdentifier : Bool := false
  /-- Whether a selected value is marked for conversion into the field's type. -/
  isCustomType : Bool := false
  /-- Whether the database produces the value on insert. -/
  isDefaultGenerated : Bool := false
  /-- Whether the name of the field or of its column is reserved. -/
  isReserved : Bool := false
  lookups : Lookups := {}
  /-- The name of the setter, if the field has one. -/
  setterName : Option String := none
  /-- Whether patches hand their value over without copying it. -/
  byReference : Bool := false
  extra : List (String × Value) := []

/-- The names of the functions generated for a field: its lookups, then its setter. -/
def Field.generatedNames (field : Field) : List String :=
  field.lookups.declared.map (fun lookup => lookup.2.functionName) ++ field.setterName.toList

/-- The model of rows that are inserted. -/
structure InsertSpec where
  modelName : String
  config : List (String × Value)

/-- Whether the generated names of an entity are hidden behind an underscore. -/
inductive Visibility where
  | «public»
  | «private»
deriving DecidableEq

/-- A table whose declaration has been checked. -/
structure TableSchema where
  entity : String
  visibility : Visibility := .public
  table : String
  identifier : Field
  fields : List Field
  insertable : Option InsertSpec := none
  deletable : Bool := false
  /-- The name of the backend that the declaration was checked for, if there was one. -/
  backend : Option String := none

namespace TableSchema

/-- Every field but the identifier. -/
def fieldsExceptIdentifier (schema : TableSchema) : List Field :=
  schema.fields.filter fun field => !field.isIdentifier

/-- The fields that the caller supplies on insert. -/
def insertFields (schema : TableSchema) : List Field :=
  schema.fields.filter fun field => !field.isDefaultGenerated

/-- The fields that the database generates. -/
def defaultFields (schema : TableSchema) : List Field :=
  schema.fields.filter Field.isDefaultGenerated

/-- The name under which a generated function is attached to the entity. -/
def accessorName (schema : TableSchema) (name : String) : String :=
  match schema.visibility with
  | .private => if name.toList.head? = some '_' then name else "_" ++ name
  | .public => name

/-- The first field of a name. -/
def field? (schema : TableSchema) (name : String) : Option Field :=
  schema.fields.find? fun field => field.name == name

end TableSchema

/-- A field of a patch. -/
structure PatchField where
  name : String
  column : String
  isCustomType : Bool := false
  isReserved : Bool := false
  byReference : Bool := false

/-- A patch whose declaration has been checked. -/
structure PatchSchema where
  entity : String
  targetTable : String
  /-- The dotted path of the entity that the patch belongs to. -/
  targetPath : String
  identifierColumn : String
  fields : List PatchField
  /-- The name of the backend that the declaration was checked for, if there was one. -/
  backend : Option String := none

end SqlMapping
