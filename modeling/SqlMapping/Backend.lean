import SqlMapping.Backend.Reserved
import SqlMapping.Text.Case
import SqlMapping.Value.ArrayText

/-!
# Backends

A backend is the table of what one database dialect can do: how it quotes identifiers, which
words it reserves, how it writes placeholders, how it tests membership in a set and how it
opens a transaction and reports generated identifiers.  Everything that depends on the dialect
is read off this table.

The main statements say what forced quoting writes: the identifier between two quote marks,
with every quote mark inside written twice.
-/

namespace SqlMapping

/-- How a standard backend writes the placeholders of a statement. -/
inductive PlaceholderStyle where
  /-- A dollar sign and the position of the placeholder, from one. -/
  | numbered
  /-- A question mark. -/
  | questionMark
deriving DecidableEq

/-- The text of the placeholder that `used` others precede. -/
def PlaceholderStyle.text : PlaceholderStyle → (used : Nat) → String
  | .numbered, used => "$" ++ toString (used + 1)
  | .questionMark, _ => "?"

/-- How a standard backend tests membership of a column in a set argument. -/
inductive SetStyle where
  /-- The argument is an array. -/
  | anyOf
  /-- The argument is an array text that the dialect searches. -/
  | memberOf
  /-- The argument is an array text that the dialect turns into rows. -/
  | arrayRows
deriving DecidableEq

namespace SetStyle

/-- The texts between a column and a placeholder, and after the placeholder. -/
def frame : SetStyle → String × String
  | .anyOf => (" = ANY(", ")")
  | .memberOf => (" MEMBER OF (", ")")
  | .arrayRows => (" IN (SELECT value FROM json_each(", "))")

/-- The test that a column is among the members of the set at a placeholder. -/
def test (style : SetStyle) (column placeholder : String) : String :=
  column ++ style.frame.1 ++ placeholder ++ style.frame.2

/-- The argument that the test takes for the members of a set. -/
def argument (style : SetStyle) (members : List Value) : Value :=
  match style with
  | .anyOf => .list members
  | .memberOf | .arrayRows => .text (Value.list members).arrayText

end SetStyle

/-- What one database dialect can do. -/
structure Backend where
  /-- The name that the backend gives itself. -/
  name : String
  /-- The name of the kind of backend. -/
  kindName : String
  /-- The mark on both sides of a quoted identifier. -/
  quoteMark : String
  /-- Words that are always quoted, in upper case. -/
  reserved : List String
  /-- Whether an insert can return columns. -/
  supportsReturning : Bool
  /-- The query for the identifier that the last insert generated. -/
  lastInsertId : Option String
  /-- The statement that opens a transaction. -/
  beginSql : String
  /-- The placeholder of a statement that so many others precede. -/
  placeholder : (used : Nat) → String
  /-- The test that a column is among the members of the set at a placeholder. -/
  membership : (column placeholder : String) → String
  /-- The argument that the test takes for the members of a set. -/
  bindMembers : (members : List Value) → Value

namespace Backend

/-- Whether an identifier collides with a reserved word, in any letter case. -/
def isReserved (backend : Backend) (identifier : String) : Bool :=
  backend.reserved.contains (Text.upper identifier)

/-- Write every occurrence of a mark twice; occurrences are found from left to right. -/
def doubleMarks (mark : List Char) (characters : List Char) : List Char :=
  match mark, characters with
  | [], characters => characters
  | _ :: _, [] => []
  | first :: others, character :: rest =>
    if (first :: others).isPrefixOf (character :: rest) then
      (first :: others) ++ (first :: others)
        ++ doubleMarks (first :: others) (rest.drop others.length)
    else character :: doubleMarks (first :: others) rest
termination_by characters.length
decreasing_by
  · simp only [List.length_cons, List.length_drop]; omega
  · simp

/-- Put quote marks around an identifier. -/
def enclose (backend : Backend) (identifier : String) : String :=
  let mark := backend.quoteMark.toList
  String.ofList (mark ++ doubleMarks mark identifier.toList ++ mark)

/-- An identifier as it is emitted: quoted if it is reserved. -/
def quote (backend : Backend) (identifier : String) : String :=
  if backend.isReserved identifier then backend.enclose identifier else identifier

@[simp]
theorem doubleMarks_nil (mark : Char) : doubleMarks [mark] [] = [] := by
  simp [doubleMarks]

/-- A mark of one character is doubled wherever it stands. -/
@[simp]
theorem doubleMarks_cons (mark character : Char) (rest : List Char) :
    doubleMarks [mark] (character :: rest) =
      (if mark = character then [mark, mark] else [character]) ++ doubleMarks [mark] rest := by
  rw [doubleMarks]
  by_cases equality : mark = character <;> simp [equality, List.isPrefixOf]

@[simp]
theorem toList_enclose (backend : Backend) (identifier : String) :
    (backend.enclose identifier).toList =
      backend.quoteMark.toList
        ++ doubleMarks backend.quoteMark.toList identifier.toList
        ++ backend.quoteMark.toList := by
  simp [enclose]

/-- PostgreSQL: numbered placeholders, array arguments, inserts that return columns. -/
def postgres : Backend where
  name := "postgres"
  kindName := "PostgresBackend"
  quoteMark := "\""
  reserved := Reserved.commonWords ++ Reserved.postgresWords
  supportsReturning := true
  lastInsertId := none
  beginSql := "BEGIN"
  placeholder := PlaceholderStyle.numbered.text
  membership := SetStyle.anyOf.test
  bindMembers := SetStyle.anyOf.argument

/-- MySQL: back-quoted identifiers and a query for the last generated identifier. -/
def mysql : Backend where
  name := "mysql"
  kindName := "MySQLBackend"
  quoteMark := "\x60"
  reserved := Reserved.commonWords ++ Reserved.mysqlWords
  supportsReturning := false
  lastInsertId := some "SELECT LAST_INSERT_ID()"
  beginSql := "START TRANSACTION"
  placeholder := PlaceholderStyle.questionMark.text
  membership := SetStyle.memberOf.test
  bindMembers := SetStyle.memberOf.argument

/-- SQLite: set arguments are array texts, and the last generated identifier is queried. -/
def sqlite : Backend where
  name := "sqlite"
  kindName := "SQLiteBackend"
  quoteMark := "\""
  reserved := Reserved.commonWords ++ Reserved.sqliteWords
  supportsReturning := false
  lastInsertId := some "SELECT last_insert_rowid()"
  beginSql := "BEGIN"
  placeholder := PlaceholderStyle.questionMark.text
  membership := SetStyle.arrayRows.test
  bindMembers := SetStyle.arrayRows.argument

end Backend

end SqlMapping
