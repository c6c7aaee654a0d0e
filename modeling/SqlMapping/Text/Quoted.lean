import SqlMapping.Text.Visible

/-!
# Quoted literals

The literal text of a string or of a byte string: quote marks around it, a backslash before
what would end it, and escapes for what has no printed form.  Single quotes are used unless
the text holds a single quote and no double quote.
-/

namespace SqlMapping.Text

/-- The lower-case hexadecimal digit of a number below sixteen. -/
def hexDigit (value : Nat) : Char :=
  if value < 10 then Char.ofNat (0x30 + value) else Char.ofNat (0x57 + value)

/-- The lowest `width` hexadecimal digits of a number. -/
def hexDigits : Nat → Nat → List Char
  | 0, _ => []
  | width + 1, value => hexDigits width (value / 16) ++ [hexDigit (value % 16)]

@[simp]
theorem length_hexDigits (width value : Nat) : (hexDigits width value).length = width := by
  induction width generalizing value with
  | zero => rfl
  | succ width inductionHypothesis => simp [hexDigits, inductionHypothesis]

/-- The quote mark a literal is written with. -/
def quoteMark (characters : List Char) : Char :=
  if characters.contains '\'' && !characters.contains '"' then '"' else '\''

/-- The escape of a character without a printed form, as short as its code point allows. -/
def escapeHidden (character : Char) : List Char :=
  let code := character.toNat
  if code < 0x100 then '\\' :: 'x' :: hexDigits 2 code
  else if code < 0x10000 then '\\' :: 'u' :: hexDigits 4 code
  else '\\' :: 'U' :: hexDigits 8 code

/-- One character of a literal written with the quote mark `mark`. -/
def escapeCharacter (mark character : Char) : List Char :=
  if character = mark || character = '\\' then ['\\', character]
  else if character = '\n' then ['\\', 'n']
  else if character = '\r' then ['\\', 'r']
  else if character = '\t' then ['\\', 't']
  else if isVisible character then [character]
  else escapeHidden character

/-- The literal text of a string. -/
def quoteText (text : String) : String :=
  let characters := text.toList
  let mark := quoteMark characters
  String.ofList (mark :: (characters.flatMap (escapeCharacter mark) ++ [mark]))

/-- One byte of a literal: a visible ASCII character or an escape. -/
def escapeByte (mark : Char) (byte : UInt8) : List Char :=
  let character := Char.ofNat byte.toNat
  if character = mark || character = '\\' then ['\\', character]
  else if character = '\n' then ['\\', 'n']
  else if character = '\r' then ['\\', 'r']
  else if character = '\t' then ['\\', 't']
  else if 0x20 ≤ byte && byte < 0x7F then [character]
  else '\\' :: 'x' :: hexDigits 2 byte.toNat

/-- The literal text of a byte string. -/
def quoteBytes (bytes : List UInt8) : String :=
  let mark := quoteMark (bytes.map fun byte => Char.ofNat byte.toNat)
  String.ofList ('b' :: mark :: (bytes.flatMap (escapeByte mark) ++ [mark]))

end SqlMapping.Text
