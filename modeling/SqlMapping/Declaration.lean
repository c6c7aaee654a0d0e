import SqlMapping.Validation.Issue

/-!
# Declarations

A declaration is the raw description of a table or of a patch: a name, options in order, and
fields with options of their own.  Options are keys with values; which keys there may be, how
often, and with which values is checked later, so that repeated keys can be told apart from
missing ones.
-/

namespace SqlMapping

/-- One option: a key with a value. -/
structure Attribute where
  key : String
  value : Value := .bool true
deriving Inhabited

/-- A field as it is declared. -/
structure FieldDeclaration where
  name : String
  /-- The declared type: a type, a descriptive text, or nothing. -/
  type : Value := .null
  attributes : List Attribute := []
  /-- Properties of the field that are carried onto generated models. -/
  extra : List (String × Value) := []
deriving Inhabited

/-- A table or a patch as it is declared. -/
structure Declaration where
  name : String
  attributes : List Attribute := []
  fields : List FieldDeclaration := []
deriving Inhabited

/-- The names of the declared fields, in order. -/
def Declaration.fieldNames (declaration : Declaration) : List String :=
  declaration.fields.map FieldDeclaration.name

/-- Read an option from data. -/
def Attribute.ofValue (data : Value) : Checked Attribute := do
  let entries ← Checked.recordEntries data
  let ((key, value), ()) ←
    Checked.both
      (Checked.both
        (Checked.entry entries "key" none Checked.text)
        (Checked.entry entries "value" (some (.bool true)) Checked.any))
      (Checked.knownOnly ["key", "value"] entries)
  return ⟨key, value⟩

/-- Read a field from data. -/
def FieldDeclaration.ofValue (data : Value) : Checked FieldDeclaration := do
  let entries ← Checked.recordEntries data
  let ((((name, type), attributes), extra), ()) ←
    Checked.both
      (Checked.both
        (Checked.both
          (Checked.both
            (Checked.entry entries "name" none Checked.text)
            (Checked.entry entries "type" (some .null) Checked.any))
          (Checked.entry entries "attributes" (some []) (Checked.list Attribute.ofValue)))
        (Checked.entry entries "extra" (some []) Checked.mapping))
      (Checked.knownOnly ["name", "type", "attributes", "extra"] entries)
  return ⟨name, type, attributes, extra⟩

/-- Read a declaration from data. -/
def Declaration.ofValue (data : Value) : Checked Declaration := do
  let entries ← Checked.recordEntries data
  let (((name, attributes), fields), ()) ←
    Checked.both
      (Checked.both
        (Checked.both
          (Checked.entry entries "name" none Checked.text)
          (Checked.entry entries "attributes" (some []) (Checked.list Attribute.ofValue)))
        (Checked.entry entries "fields" (some []) (Checked.list FieldDeclaration.ofValue)))
      (Checked.knownOnly ["name", "attributes", "fields"] entries)
  return ⟨name, attributes, fields⟩

end SqlMapping
