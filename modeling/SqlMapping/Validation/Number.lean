import SqlMapping.Validation.Issue

/-!
# Reading numbers

Numbers are read leniently: a text may be a written number, truth values and numbers stand for
each other, and what is equal to an integer is read as one.  A strict reading takes numbers of
the right kind only.
-/

namespace SqlMapping

namespace Reading

/-- The text of a text, or of bytes; bytes that encode no text have none. -/
def written? : Value → Option (Option (List Char))
  | .text content => some (some content.toList)
  | .bytes content => some ((String.fromUTF8? ⟨content.toArray⟩).map String.toList)
  | _ => none

/-- Lift a reading of a part into a checked value. -/
def orIssue {α : Type} (kind : IssueKind) (build : α → Value) : Option α → Checked Value
  | some value => .ok (build value)
  | none => Checked.issue kind

/-- Drop the white space around a text. -/
def trimmed (characters : List Char) : List Char :=
  Text.trimBoth Text.isWhiteSpace characters

/-- Drop underscores, unless two of them touch or one stands at an end. -/
def dropUnderscores (characters : List Char) : List Char :=
  let misplaced :=
    characters.head? = some '_' || characters.getLast? = some '_'
      || (characters.zip (characters.drop 1)).any fun (left, right) => left = '_' && right = '_'
  if misplaced then characters else characters.filter (· ≠ '_')

/-! ## Written integers -/

/-- Whether an integer without zeros in front can begin with a character. -/
def beginsInteger (character : Char) : Bool :=
  character = '-' || ('1' ≤ character && character ≤ '9')

/--
Drop zeros and underscores from the front of a text whose first character is `last`.  The
integer proper may follow with a sign of its own; before a point one zero is kept.
-/
def dropZeros : (last : Char) → List Char → Option (List Char)
  | last, [] => some [last]
  | last, character :: rest =>
    if character = '0' || character = '_' then dropZeros character rest
    else if beginsInteger character then some (character :: rest)
    else if character = '.' then some (last :: character :: rest)
    else none

/-- Drop the zeros that stand in front of an integer. -/
def withoutLeadingZeros : List Char → Option (List Char)
  | [] => none
  | first :: rest =>
    if beginsInteger first then some (first :: rest)
    else if first = '0' then dropZeros first rest
    else none

/-- Drop a point that is followed by zeros, at least one, up to the end. -/
def withoutPlaces (characters : List Char) : List Char :=
  match characters.dropWhile (· ≠ '.') with
  | _ :: zeros =>
    if !zeros.isEmpty && zeros.all (· = '0') then characters.takeWhile (· ≠ '.')
    else characters
  | [] => characters

/-- What is left of a written integer after zeros and underscores have been dropped. -/
def bareInteger (characters : List Char) : Option (List Char) :=
  (withoutLeadingZeros characters).map fun proper => dropUnderscores (withoutPlaces proper)

/-- Split the minus sign from an integer. -/
def splitSign : List Char → Bool × List Char
  | '-' :: digits => (true, digits)
  | digits => (false, digits)

/--
The sign and the digits of a written integer.  Zeros are dropped after a sign as they are without
one; what follows them may have a minus sign of its own, but no integer has two signs.
-/
def plainInteger (characters : List Char) : Option (Bool × List Char) :=
  match trimmed characters with
  | '+' :: '-' :: _ => none
  | '+' :: rest => (bareInteger rest).map splitSign
  | '-' :: rest => (bareInteger rest).map fun digits => (true, digits)
  | rest => (bareInteger rest).map splitSign

/-- Whether digits are those of a plain integer: not empty, and without a zero in front. -/
def isProper (digits : List Char) : Bool :=
  !digits.isEmpty && digits.all Char.isDigit
    && (digits.length = 1 || digits.head? ≠ some '0')

/-- Read a written integer. -/
def writtenInteger (characters : List Char) : Checked Value :=
  match plainInteger characters with
  | none => Checked.issue .intParsing
  | some (negative, digits) =>
    if Text.digitLimit < (digits.takeWhile Char.isDigit).length then
      Checked.issue .intParsingSize
    else if !isProper digits then Checked.issue .intParsing
    else
      let value : Int := Decimal.digitsValue digits
      .ok (.int (if negative then -value else value))

/-! ## Written floating-point numbers and truth values -/

/-- The floating-point numbers that have names. -/
def namedFloats : List (String × Decimal.Binary64) :=
  [("inf", .infinity), ("infinity", .infinity), ("nan", .notANumber)]

/-- Read a floating-point number and nothing else. -/
def plainFloat (characters : List Char) : Option Decimal.Binary64 :=
  let (negative, unsigned) := Decimal.takeSign characters
  match namedFloats.lookup (String.ofList (unsigned.map Char.toLower)) with
  | some number => some (if negative then number.negate else number)
  | none => (Decimal.Numeral.read characters).map Decimal.Numeral.toBinary64

/-- Read a written floating-point number: white space or underscores may be dropped, not both. -/
def writtenFloat (characters : List Char) : Option Decimal.Binary64 :=
  (plainFloat (trimmed characters)).or (plainFloat (dropUnderscores characters))

/-- Texts that are read as true, in any letter case. -/
def trueWords : List String := ["1", "on", "t", "true", "y", "yes"]

/-- Texts that are read as false, in any letter case. -/
def falseWords : List String := ["0", "off", "f", "false", "n", "no"]

/-- Read a written truth value. -/
def writtenBool (characters : List Char) : Option Bool :=
  let word := String.ofList (characters.map Char.toLower)
  if trueWords.contains word then some true
  else if falseWords.contains word then some false
  else none

/-! ## Numbers as numbers of another kind -/

/-- Whether a number fits into a signed word of 64 bits, its least value aside. -/
def fitsWord (value : Int) : Bool :=
  value.natAbs < 0x8000000000000000

/-- Whether a number is one of those that a signed word of 64 bits has. -/
def isWord (value : Int) : Bool :=
  fitsWord value || value = -0x8000000000000000

/-- Read a floating-point number as an integer. -/
def integerOfFloat (number : Decimal.Binary64) : Checked Value :=
  match number.toExact? with
  | none => Checked.issue .finiteNumber
  | some exact =>
    match exact.toInt? with
    | none => Checked.issue .intFromFloat
    | some whole =>
      if fitsWord whole then .ok (.int whole) else Checked.issue .intParsingSize

/-- Read a decimal as an integer. -/
def integerOfDecimal (number : Decimal.Extended) : Checked Value :=
  match number.toExact? with
  | none => Checked.issue .finiteNumber
  | some exact => orIssue .intFromFloat .int exact.toInt?

/-- Read an integer; a strict reading takes nothing but integers. -/
def integer (strict : Bool) (value : Value) : Checked Value :=
  match value with
  | .int _ => .ok value
  | _ =>
    if strict then Checked.issue .intType
    else
      match value with
      | .bool flag => .ok (.int (if flag then 1 else 0))
      | .float number => integerOfFloat number
      | _ =>
        match value.decimal?, written? value with
        | some number, _ => integerOfDecimal number
        | none, some (some characters) => writtenInteger characters
        | none, some none => Checked.issue .intParsing
        | none, none => Checked.issue .intType

/-- The floating-point number nearest to an integer, unless it is infinite. -/
def floatOfInteger (value : Int) : Checked Value :=
  let number := Decimal.Binary64.ofInt value
  if number.isSpecial then Checked.issue .floatType else .ok (.float number)

/-- Read a floating-point number; a strict reading takes numbers of every kind. -/
def float (strict : Bool) (value : Value) : Checked Value :=
  match value, value.decimal? with
  | .float _, _ => .ok value
  | .int number, _ => floatOfInteger number
  | _, some number => orIssue .floatType .float number.toBinary64?
  | _, none =>
    if strict then Checked.issue .floatType
    else
      match value, written? value with
      | .bool flag, _ => floatOfInteger (if flag then 1 else 0)
      | _, some (some characters) => orIssue .floatParsing .float (writtenFloat characters)
      | _, some none => Checked.issue .floatParsing
      | _, none => Checked.issue .floatType

/-- Read an integer as a truth value. -/
def booleanOfInteger (value : Int) : Checked Value :=
  if value = 0 then .ok (.bool false)
  else if value = 1 then .ok (.bool true)
  else Checked.issue .boolParsing

/-- Read a floating-point number as a truth value. -/
def booleanOfFloat (number : Decimal.Binary64) : Checked Value :=
  match number.toExact?.bind Decimal.Exact.toInt? with
  | some whole => if fitsWord whole then booleanOfInteger whole else Checked.issue .boolType
  | none => Checked.issue .boolType

/-- Read a truth value; a strict reading takes nothing but truth values. -/
def boolean (strict : Bool) (value : Value) : Checked Value :=
  match value with
  | .bool _ => .ok value
  | _ =>
    if strict then Checked.issue .boolType
    else
      match value with
      | .int number =>
        if isWord number then booleanOfInteger number else Checked.issue .boolType
      | .float number => booleanOfFloat number
      | _ =>
        match value.decimal?, written? value with
        | some number, _ =>
          (number.toBinary64?.map booleanOfFloat).getD (Checked.issue .boolType)
        | none, some text => orIssue .boolParsing .bool (text.bind writtenBool)
        | none, none => Checked.issue .boolType

/-! ## Decimals -/

/-- A decimal as a value. -/
def ofDecimal (number : Decimal.Extended) : Value := .written .decimal number.text

/-- Read a written decimal. -/
def decimalOfText (characters : List Char) : Checked Value :=
  orIssue .decimalParsing ofDecimal (Decimal.Extended.read characters)

/-- The integer that a value is; truth values are zero and one. -/
def integer? : Value → Option Int
  | .int value => some value
  | .bool value => some (if value then 1 else 0)
  | _ => none

/-- The digit that a value is. -/
def digit? (value : Value) : Option Nat :=
  (integer? value).bind fun number =>
    if 0 ≤ number && number ≤ 9 then some number.toNat else none

/-- The values of a list or tuple. -/
def items? : Value → Option (List Value)
  | .list items => some items
  | .tuple items => some items
  | _ => none

/-- The digits that a mark carries, without zeros in front. -/
def payloadOf (digits : List Nat) : List Char :=
  (digits.dropWhile (· = 0)).map Nat.digitChar

/--
The decimal of a sign, of digits and of a power of ten.  In place of the power there may be a
letter for an infinity, or for a mark that signals or does not.
-/
def decimalOfParts (negative : Bool) (digits : List Nat) : Value → Checked Value
  | .text "F" => .ok (ofDecimal (.infinite negative))
  | .text "n" => .ok (ofDecimal (.missing negative false (payloadOf digits)))
  | .text "N" => .ok (ofDecimal (.missing negative true (payloadOf digits)))
  | power =>
    match integer? power with
    | none => Checked.issue .decimalType
    | some power =>
      let number : Decimal.Numeral :=
        ⟨negative, digits.foldl (fun value digit => value * 10 + digit) 0, power⟩
      orIssue .decimalType ofDecimal (Decimal.Extended.ofNumeral? number)

/-- Read the parts of a decimal. -/
def decimalOfItems : List Value → Checked Value
  | [sign, digits, power] =>
    match digit? sign, (items? digits).bind fun digits => digits.mapM digit? with
    | some 0, some digits => decimalOfParts false digits power
    | some 1, some digits => decimalOfParts true digits power
    | _, _ => Checked.issue .decimalType
  | _ => Checked.issue .decimalType

/-- Read a decimal; a strict reading takes nothing but decimals. -/
def decimal (strict : Bool) (value : Value) : Checked Value :=
  match value.decimal? with
  | some _ => .ok value
  | none =>
    if strict then Checked.issue .notAnInstance
    else
      match value with
      | .text content => decimalOfText content.toList
      | .int number => decimalOfText (toString number).toList
      | .float number => decimalOfText (number.text Decimal.plainStyle).toList
      | .tuple parts => decimalOfItems parts
      | _ => Checked.issue .decimalType

end Reading

end SqlMapping
