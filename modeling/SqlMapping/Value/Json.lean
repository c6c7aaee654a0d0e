import SqlMapping.Entries
import SqlMapping.Value

/-!
# Reading JSON texts

A JSON text is read as a value.  A number with a point or an exponent is a floating-point
number, and so are the words for infinities and for no number; any other number is an integer
of any size.  Of entries with one key the last one counts.
-/

namespace SqlMapping.Json

/-- Drop the blanks in front of a text. -/
def skipBlanks (characters : List Char) : List Char :=
  characters.dropWhile Char.isWhitespace

/-- The value of a hexadecimal digit. -/
def hexValue (digit : Char) : Nat :=
  if digit.isDigit then digit.toNat - 48 else digit.toLower.toNat - 87

/-- The number that hexadecimal digits stand for. -/
def hexNumber (digits : List Char) : Nat :=
  digits.foldl (fun number digit => number * 16 + hexValue digit) 0

/-- The character that a mark after a backslash stands for. -/
def escaped (mark : Char) : Char :=
  match mark with
  | 'n' => '\n'
  | 't' => '\t'
  | 'r' => '\r'
  | 'b' => '\x08'
  | 'f' => '\x0c'
  | other => other

/-- Join pairs of surrogates to characters. -/
def ofUnits : List Nat → List Char
  | [] => []
  | [unit] => [Char.ofNat unit]
  | high :: low :: rest =>
    if high / 0x400 = 0x36 && low / 0x400 = 0x37 then
      Char.ofNat (0x10000 + (high % 0x400) * 0x400 + low % 0x400) :: ofUnits rest
    else Char.ofNat high :: ofUnits (low :: rest)

/-- Read the units of a text up to its closing quotation mark. -/
def readUnits (done : List Nat) : List Char → Option (List Nat × List Char)
  | '"' :: rest => some (done.reverse, rest)
  | '\\' :: 'u' :: a :: b :: c :: d :: rest => readUnits (hexNumber [a, b, c, d] :: done) rest
  | '\\' :: mark :: rest => readUnits ((escaped mark).toNat :: done) rest
  | character :: rest => readUnits (character.toNat :: done) rest
  | [] => none

/-- Read a text up to its closing quotation mark. -/
def readText (characters : List Char) : Option (String × List Char) :=
  (readUnits [] characters).map fun (units, rest) => (String.ofList (ofUnits units), rest)

/-- The words that stand for values. -/
def words : List (String × Value) :=
  [("null", .null), ("true", .bool true), ("false", .bool false),
    ("NaN", .float .notANumber), ("Infinity", .float .infinity),
    ("-Infinity", .float Decimal.Binary64.infinity.negate)]

/-- Read a word that stands for a value. -/
def readWord (characters : List Char) : Option (Value × List Char) :=
  (words.find? fun word => word.1.toList.isPrefixOf characters).map fun word =>
    (word.2, characters.drop word.1.length)

/-- Read a number. -/
def readNumber (characters : List Char) : Option (Value × List Char) := do
  let inNumber (character : Char) : Bool :=
    character.isDigit || "+-.eE".toList.contains character
  let body := characters.takeWhile inNumber
  let value ←
    if body.any (".eE".toList.contains ·) then
      (Decimal.Numeral.read body).map fun numeral => Value.float numeral.toBinary64
    else (Text.readSigned body).map Value.int
  return (value, characters.dropWhile inNumber)

/-- Read a key and the colon after it. -/
def readKey (characters : List Char) : Option (String × List Char) :=
  match skipBlanks characters with
  | '"' :: rest => do
    let (key, rest) ← readText rest
    match skipBlanks rest with
    | ':' :: rest => some (key, rest)
    | _ => none
  | _ => none

mutual

/-- Read a value. -/
def readValue : (fuel : Nat) → List Char → Option (Value × List Char)
  | 0, _ => none
  | fuel + 1, characters =>
    match skipBlanks characters with
    | '"' :: rest => (readText rest).map fun (text, rest) => (.text text, rest)
    | '[' :: rest =>
      match skipBlanks rest with
      | ']' :: rest => some (.list [], rest)
      | rest => (readItems fuel [] rest).map fun (items, rest) => (.list items, rest)
    | '\x7b' :: rest =>
      match skipBlanks rest with
      | '\x7d' :: rest => some (.object [], rest)
      | rest => (readEntries fuel [] rest).map fun (entries, rest) => (.object entries, rest)
    | rest => (readWord rest).or (readNumber rest)

/-- Read the items of a list, of which some are read already. -/
def readItems :
    (fuel : Nat) → (done : List Value) → List Char → Option (List Value × List Char)
  | 0, _, _ => none
  | fuel + 1, done, characters =>
    match readValue fuel characters with
    | none => none
    | some (item, rest) =>
      match skipBlanks rest with
      | ',' :: rest => readItems fuel (item :: done) rest
      | ']' :: rest => some ((item :: done).reverse, rest)
      | _ => none

/-- Read the entries of a mapping, of which some are read already. -/
def readEntries :
    (fuel : Nat) → (done : List (String × Value)) → List Char →
      Option (List (String × Value) × List Char)
  | 0, _, _ => none
  | fuel + 1, done, characters =>
    match readKey characters with
    | none => none
    | some (key, rest) =>
      match readValue fuel rest with
      | none => none
      | some (item, rest) =>
        match skipBlanks rest with
        | ',' :: rest => readEntries fuel ((key, item) :: done) rest
        | '\x7d' :: rest => some (Entries.putAll [] ((key, item) :: done).reverse, rest)
        | _ => none

end

/-- The value that a JSON text begins with. -/
def read? (text : String) : Option Value :=
  let characters := text.toList
  (readValue (characters.length + 1) characters).map Prod.fst

end SqlMapping.Json
