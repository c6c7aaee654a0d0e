import SqlMapping.Query.Scan

/-!
# The items of a select list

The select list of a statement is the text between its first top-level word SELECT, with the
word DISTINCT or ALL directly after it, and the next top-level word FROM.  Its items are
separated by top-level commas.
-/

namespace SqlMapping.Query

/-- The position after SELECT from which the select list runs, and the words after it. -/
def skipQuantifier (characters : List Char) (start : Nat) : List Word → Nat × List Word
  | [] => (start, [])
  | word :: rest =>
    let between := Text.trimBlanks (slice characters start word.start)
    if (word.is "DISTINCT" || word.is "ALL") && between.isEmpty then (word.stop, rest)
    else (start, word :: rest)

/-- The text of the select list, if the text has one. -/
def selectListOf (characters : List Char) : Option (List Char) :=
  match (topLevelWords characters).dropWhile fun word => !word.is "SELECT" with
  | [] => none
  | word :: rest =>
    let (start, others) := skipQuantifier characters word.stop rest
    let stop := ((others.find? fun word => word.is "FROM").map Word.start).getD characters.length
    some (slice characters start stop)

/-- The text of the select list of a statement, if it has one. -/
def selectListText (sql : String) : Option String :=
  (selectListOf sql.toList).map String.ofList

/-- Cut a marked text at its top-level commas. -/
def cutAtCommas : List (Char × Bool) → List (List Char)
  | [] => [[]]
  | (character, visible) :: rest =>
    if visible && character = ',' then [] :: cutAtCommas rest
    else
      match cutAtCommas rest with
      | [] => [[character]]
      | first :: others => (character :: first) :: others

/-- The items of a select list, trimmed; empty items do not count. -/
def splitItems (characters : List Char) : List (List Char) :=
  ((cutAtCommas (characters.zip (topLevel {} characters))).map Text.trimBlanks).filter
    fun item => !item.isEmpty

end SqlMapping.Query
