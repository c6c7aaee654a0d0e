import SqlMapping.Schema
import SqlMapping.Statement

/-!
# Select lists

A field is selected as its column.  A column of another name is given the field's name as its
alias; the column of a field with a custom type is given a marked alias, which tells the
decoder to convert the value.  A marked name stands for the field without the mark.
-/

namespace SqlMapping

/-- The end of an alias that marks a column for conversion. -/
def typeMarker : String := ": _"

/-- Drop a text from the end of another, if it stands there. -/
def dropMarker (marker : List Char) (characters : List Char) : List Char :=
  if marker.isSuffixOf characters then characters.take (characters.length - marker.length)
  else characters

/-- The field that a result column is decoded into. -/
def outputName (column : String) : String :=
  String.ofList (dropMarker typeMarker.toList column.toList)

/-- The select-list entry of a field. -/
def Field.selectItem (field : Field) : Template :=
  if field.isCustomType then
    [.identifier field.column, .word " AS ", .label (field.name ++ typeMarker)]
  else if field.column ≠ field.name then
    [.identifier field.column, .word " AS ", .identifier field.name]
  else [.identifier field.column]

/-- The select list of some fields. -/
def selectList (fields : List Field) : Template :=
  Template.separated (fields.map Field.selectItem)

/-- The text of a select list. -/
def columnList (backend : Backend) (fields : List Field) : String :=
  (selectList fields).render backend

/-- Assignments of placeholders to columns. -/
def assignments (columns : List String) : Template :=
  Template.separated
    (columns.map fun column => [.identifier column, .word " = ", .placeholder])

/-- A mark that was added to a name is dropped again. -/
@[simp]
theorem outputName_append_typeMarker (name : String) :
    outputName (name ++ typeMarker) = name := by
  have isEnd : typeMarker.toList.isSuffixOf (name.toList ++ typeMarker.toList) = true := by
    rw [List.isSuffixOf_iff_suffix]
    exact List.suffix_append _ _
  simp [outputName, dropMarker, String.toList_append, isEnd]

end SqlMapping
