import SqlMapping.Query.SelectItems
import SqlMapping.Statement.SelectList

/-!
# Names of select items

Every item of a select list has an output name.  An item with an alias has that alias; a
plain column has its own name; a star stands for names that are not known.  Any other
expression is named by the rules of the dialect: PostgreSQL names a cast after its operand, a
function call after the function and a CASE expression by that word, and calls the rest
`?column?`; the other dialects use the text of the expression.
-/

namespace SqlMapping.Query

/-- The name of an item that stands for any number of columns. -/
def star : List Char := ['*']

/-- Why output names cannot be told. -/
inductive NameFault where
  /-- A cast is never closed. -/
  | unclosedCast
  /-- There is no statement whose columns could be named. -/
  | noStatement
deriving DecidableEq

/-- The wording of a naming fault. -/
def NameFault.message : NameFault → String
  | .unclosedCast => "substring not found"
  | .noStatement => "list index out of range"

/-- The name that an alias or a column gives its item: without blanks, quotes and type mark. -/
def unquote (characters : List Char) : List Char :=
  let trimmed := Text.trimBlanks characters
  match trimmed with
  | first :: second :: rest =>
    let last := (second :: rest).getLast (List.cons_ne_nil second rest)
    if closingMark? first = some last then (second :: rest).dropLast else trimmed
  | _ => trimmed

/-- The output name that an alias or a column stands for. -/
def nameOf (characters : List Char) : List Char :=
  dropMarker typeMarker.toList (unquote characters)

/-! ## Plain columns -/

/-- Take one identifier: a run of word characters, or a text in double or back quotes. -/
def takeIdentifier : List Char → Option (List Char × List Char)
  | [] => none
  | character :: rest =>
    if character = '"' || character = '\x60' then
      let body := rest.takeWhile (· ≠ character)
      match rest.dropWhile (· ≠ character) with
      | [] => none
      | _ :: after =>
        if body.isEmpty then none else some (character :: body ++ [character], after)
    else if isWordStart character then
      some (character :: rest.takeWhile isWordCharacter, rest.dropWhile isWordCharacter)
    else none

/-- Whether nothing but a final line break is left. -/
def atEnd (characters : List Char) : Bool :=
  characters = [] || characters = ['\n']

/-- The last of some identifiers that are joined by dots and make up a whole text. -/
def lastComponent? : (fuel : Nat) → List Char → Option (List Char)
  | 0, _ => none
  | fuel + 1, characters =>
    match takeIdentifier characters with
    | none => none
    | some (identifier, rest) =>
      if atEnd rest then some identifier
      else
        match rest with
        | '.' :: others => lastComponent? fuel others
        | _ => none

/-- The last component of a plain, possibly qualified column. -/
def plainColumn? (item : List Char) : Option (List Char) :=
  lastComponent? (item.length + 1) item

/-! ## Implicit aliases -/

/-- An item cut before the blanks in front of its last identifier. -/
structure Tail where
  head : List Char
  identifier : List Char

/-- The last identifier of an item and what stands before the blanks in front of it. -/
def tail? (item : List Char) : Option Tail :=
  let whole := if item.getLast? = some '\n' then item.dropLast else item
  let reversed := whole.reverse
  match reversed with
  | [] => none
  | last :: before =>
    let split : Option (List Char × List Char) :=
      if last = '"' || last = '\x60' then
        let body := before.takeWhile (· ≠ last)
        match before.dropWhile (· ≠ last) with
        | [] => none
        | _ :: rest => if body.isEmpty then none else some (last :: body ++ [last], rest)
      else
        let run := reversed.takeWhile fun character => !Text.isBlank character
        let rest := reversed.dropWhile fun character => !Text.isBlank character
        let isAscii (character : Char) : Bool := character.isAlphanum || character = '_'
        if run.all isAscii && run.getLast?.any isWordStart then some (run, rest) else none
    match split with
    | none => none
    | some (identifier, rest) =>
      match rest with
      | [] => none
      | blank :: _ =>
        if Text.isBlank blank then some ⟨(rest.dropWhile Text.isBlank).reverse, identifier.reverse⟩
        else none

/-- Words that end an expression and are no aliases. -/
def notAliases : List String := ["END", "NULL", "TRUE", "FALSE"]

/-- Words after which an expression goes on. -/
def connectives : List String := ["AND", "OR", "NOT", "IS"]

/-- Operators after which an expression goes on. -/
def operators : List Char := ['-', '+', '*', '/', '%', '=', '<', '>', '|', '.', '(']

/-- Whether an expression that ends like this expects another operand. -/
def expectsOperand (head : List Char) : Bool :=
  head.getLast?.any operators.contains
    || connectives.any fun word =>
      word.toList.isSuffixOf (Text.upperCharacters (Text.trimBlanks head))

/-- The alias of an item that is given without the word AS. -/
def implicitAlias? (item : List Char) : Option (List Char) :=
  match tail? item with
  | none => none
  | some tail =>
    let isReservedWord :=
      notAliases.contains (String.ofList (Text.upperCharacters tail.identifier))
    if isReservedWord || expectsOperand tail.head || (Text.trimBlanks tail.head).isEmpty then none
    else some tail.identifier

/-! ## Expressions -/

/-- The position of the first top-level cast operator. -/
def castPosition? : (position : Nat) → List (Char × Bool) → Option Nat
  | position, (first, firstVisible) :: (second, secondVisible) :: rest =>
    if firstVisible && secondVisible && first = ':' && second = ':' then some position
    else castPosition? (position + 1) ((second, secondVisible) :: rest)
  | _, _ => none

/-- The function of a call that makes up a whole item, and what follows the parenthesis. -/
def call? (item : List Char) : Option (List Char × List Char) :=
  match item with
  | [] => none
  | character :: rest =>
    if !isWordStart character then none
    else
      let name := character :: rest.takeWhile isWordCharacter
      let after := (rest.dropWhile isWordCharacter).dropWhile Text.isBlank
      match after with
      | '(' :: arguments =>
        let visible := (topLevel {} item).drop (item.length - arguments.length - 1)
        if visible.any id then none else some (name, arguments)
      | _ => none

/-- The text before the last closing parenthesis, if there is one. -/
def beforeLastParenthesis? (characters : List Char) : Option (List Char) :=
  match characters.reverse.dropWhile (· ≠ ')') with
  | [] => none
  | _ :: rest => some rest.reverse

/-- The text before the first top-level word AS, if there is one. -/
def beforeAs? (characters : List Char) : Option (List Char) :=
  ((topLevelWords characters).find? fun word => word.is "AS").map fun word =>
    characters.take word.start

/-- Whether an item begins with the word CASE. -/
def isCase (item : List Char) : Bool :=
  Text.upperCharacters (item.take 4) = "CASE".toList && !(item[4]?.any joinsWord)

/-- The name of an expression without an alias; each step looks at a shorter text. -/
def expressionName (postgres : Bool) : (fuel : Nat) → List Char → Except NameFault (List Char)
  | 0, item => .ok item
  | fuel + 1, item =>
    match plainColumn? item with
    | some column => .ok (nameOf column)
    | none =>
      if !postgres then .ok item
      else
        match castPosition? 0 (item.zip (topLevel {} item)) with
        | some position => expressionName postgres fuel (Text.trimBlanks (item.take position))
        | none =>
          let other : List Char := if isCase item then "case".toList else "?column?".toList
          match call? item with
          | none => .ok other
          | some (function, arguments) =>
            if function.map Char.toUpper = "CAST".toList then
              match beforeLastParenthesis? arguments with
              | none => .error .unclosedCast
              | some inner =>
                match beforeAs? inner with
                | some operand => expressionName postgres fuel (Text.trimBlanks operand)
                | none => .ok (function.map Char.toLower)
            else .ok (function.map Char.toLower)

/-- The output name of a select item. -/
def itemNameOf (postgres : Bool) (item : List Char) : Except NameFault (List Char) :=
  if item = star || ['.', '*'].isSuffixOf item then .ok star
  else
    match ((topLevelWords item).filter fun word => word.is "AS").getLast? with
    | some word => .ok (nameOf (item.drop word.stop))
    | none =>
      match implicitAlias? item with
      | some identifier => .ok (nameOf identifier)
      | none => expressionName postgres (item.length + 1) item

/-- Whether a dialect names expressions as PostgreSQL does. -/
def namesExpressions (dialect : Option String) : Bool :=
  dialect = some "postgres"

/-- The output name of a select item in a dialect. -/
def itemName (dialect : Option String) (item : String) : Except NameFault String :=
  (itemNameOf (namesExpressions dialect) item.toList).map String.ofList

/-- The output names of a statement, in order, if it has a select list. -/
def outputNames (dialect : Option String) (sql : String) :
    Except NameFault (Option (List String)) :=
  match selectListOf sql.toList with
  | none => .ok none
  | some items =>
    ((splitItems items).mapM fun item =>
      (itemNameOf (namesExpressions dialect) item).map String.ofList).map some

end SqlMapping.Query
