import SqlMapping.Value.Literal

/-!
# Array texts

A database without array arguments takes the members of a set as one text: a bracketed list
in the JSON format.  The text holds ASCII characters only; others are escaped by their UTF-16
code units.  A value that the format lacks is written as its plain text.
-/

namespace SqlMapping

namespace Text

/-- The UTF-16 code units of a character. -/
def codeUnits (character : Char) : List Nat :=
  let code := character.toNat
  if code < 0x10000 then [code]
  else
    let offset := code - 0x10000
    [0xD800 + offset / 0x400, 0xDC00 + offset % 0x400]

/-- One character of a string in an array text. -/
def arrayCharacter (character : Char) : List Char :=
  if character = '"' || character = '\\' then ['\\', character]
  else if character = '\n' then ['\\', 'n']
  else if character = '\r' then ['\\', 'r']
  else if character = '\t' then ['\\', 't']
  else if character = '\x08' then ['\\', 'b']
  else if character = '\x0c' then ['\\', 'f']
  else if 0x20 ≤ character.toNat && character.toNat < 0x7F then [character]
  else (codeUnits character).flatMap fun unit => '\\' :: 'u' :: hexDigits 4 unit

/-- A string in an array text. -/
def arrayString (text : String) : String :=
  String.ofList ('"' :: (text.toList.flatMap arrayCharacter ++ ['"']))

end Text

namespace Value

mutual

/-- A value in an array text. -/
def arrayText : Value → String
  | .null => "null"
  | .bool true => "true"
  | .bool false => "false"
  | .int value => toString value
  | .float value => value.text Decimal.arrayStyle
  | .text content => Text.arrayString content
  | .list items => "[" ++ ", ".intercalate (arrayTexts items) ++ "]"
  | .tuple items => "[" ++ ", ".intercalate (arrayTexts items) ++ "]"
  | .object entries => "\x7b" ++ ", ".intercalate (arrayEntries entries) ++ "\x7d"
  | .bytes value => Text.arrayString (Value.bytes value).plain
  | .written kind content => Text.arrayString (kind.plain content)
  | .duration span => Text.arrayString span.text
  | .type reference => Text.arrayString reference.literal
  | .lookupOption name argumentType =>
    Text.arrayString (Value.lookupOption name argumentType).plain
  | .insertOption name config => Text.arrayString (Value.insertOption name config).plain
  | .classNamed name => Text.arrayString name
  | .member name => Text.arrayString name
  | .record className fields => Text.arrayString (Value.record className fields).plain

/-- The items of an array text. -/
def arrayTexts : List Value → List String
  | [] => []
  | value :: rest => arrayText value :: arrayTexts rest

/-- The entries of a mapping in an array text. -/
def arrayEntries : List (String × Value) → List String
  | [] => []
  | (key, value) :: rest =>
    (Text.arrayString key ++ ": " ++ arrayText value) :: arrayEntries rest

end

/-- The fields of a record as pairs. -/
def pairs (fields : List (String × Value)) : List Value :=
  fields.map fun (name, value) => .tuple [.text name, value]

/-- The members of a value that can be iterated: characters, bytes, items, keys or fields. -/
def members? : Value → Option (List Value)
  | .text content => some (content.toList.map fun character => .text character.toString)
  | .bytes value => some (value.map fun byte => .int byte.toNat)
  | .list items => some items
  | .tuple items => some items
  | .object entries => some (entries.map fun entry => .text entry.1)
  | .lookupOption name argumentType =>
    some (pairs [("name", ofText? name), ("arg_type", argumentType)])
  | .insertOption name config =>
    some (pairs [("name", ofText? name), ("config", .object config)])
  | .record _ fields => some (pairs fields)
  | _ => none

end Value

end SqlMapping
