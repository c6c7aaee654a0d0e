import SqlMapping.Text.Blank

/-!
# Integer literals

An integer literal is an optional sign and decimal digits, in which single underscores may
stand between two digits; white space around it does not count.  Digits of every script are read by
their decimal value.  A literal of too many digits is not read at all, and a number of too many
digits is not written.
-/

namespace SqlMapping.Text

/-- The digits zero of the scripts that have decimal digits; nine more digits follow each. -/
def digitZeros : List Nat :=
  [0x30, 0x660, 0x6F0, 0x7C0, 0x966, 0x9E6, 0xA66, 0xAE6, 0xB66, 0xBE6, 0xC66, 0xCE6, 0xD66,
    0xDE6, 0xE50, 0xED0, 0xF20, 0x1040, 0x1090, 0x17E0, 0x1810, 0x1946, 0x19D0, 0x1A80, 0x1A90,
    0x1B50, 0x1BB0, 0x1C40, 0x1C50, 0xA620, 0xA8D0, 0xA900, 0xA9D0, 0xA9F0, 0xAA50, 0xABF0,
    0xFF10, 0x104A0, 0x10D30, 0x11066, 0x110F0, 0x11136, 0x111D0, 0x112F0, 0x11450, 0x114D0,
    0x11650, 0x116C0, 0x11730, 0x118E0, 0x11950, 0x11C50, 0x11D50, 0x11DA0, 0x16A60, 0x16AC0,
    0x16B50, 0x1D7CE, 0x1D7D8, 0x1D7E2, 0x1D7EC, 0x1D7F6, 0x1E140, 0x1E2F0, 0x1E950, 0x1FBF0]

/-- The value of a decimal digit of any script. -/
def digitValue? (character : Char) : Option Nat :=
  (digitZeros.find? fun base => base ≤ character.toNat && character.toNat < base + 10).map
    fun base => character.toNat - base

/--
Read digits with single underscores between them.  `afterDigit` tells whether a digit stands
directly before the text; the last character has to be a digit.
-/
def readDigits : (afterDigit : Bool) → (value : Nat) → List Char → Option Nat
  | afterDigit, value, [] => if afterDigit then some value else none
  | afterDigit, value, character :: rest =>
    if character = '_' then
      if afterDigit then readDigits false value rest else none
    else
      match digitValue? character with
      | some digit => readDigits true (value * 10 + digit) rest
      | none => none

/-- Read a signed integer literal without blanks. -/
def readSigned : List Char → Option Int
  | '-' :: rest => (readDigits false 0 rest).map fun value => -(value : Int)
  | '+' :: rest => (readDigits false 0 rest).map fun value => (value : Int)
  | rest => (readDigits false 0 rest).map fun value => (value : Int)

/-- Why a text gives no integer. -/
inductive IntegerFault where
  /-- The text is no literal. -/
  | malformed
  /-- The literal has more digits than are read. -/
  | tooLong (digits : Nat)
deriving DecidableEq

/-- The greatest number of digits that are read or written. -/
def digitLimit : Nat := 4300

/-- Whether a number has more digits than are written. -/
def hasExcessDigits (value : Nat) : Bool :=
  Nat.pow 10 digitLimit ≤ value

/-- Drop the sign of a literal. -/
def dropSign : List Char → List Char
  | '-' :: rest => rest
  | '+' :: rest => rest
  | rest => rest

/-- The digits and underscores that a literal begins with, its sign aside. -/
def leadingRun (characters : List Char) : List Char :=
  (dropSign characters).takeWhile fun character =>
    character = '_' || (digitValue? character).isSome

/-- Whether underscores stand only between digits, and at most one at a time. -/
def underscoresFit : (afterDigit : Bool) → List Char → Bool
  | afterDigit, [] => afterDigit
  | afterDigit, '_' :: rest => afterDigit && underscoresFit false rest
  | _, _ :: rest => underscoresFit true rest

/-- The number of digits of a run of digits and underscores. -/
def runLength (run : List Char) : Nat := run.countP (· ≠ '_')

/-- Read an integer literal, white space around it aside. -/
def readInteger (text : String) : Except IntegerFault Int :=
  let characters := trimBoth isWhiteSpace text.toList
  let run := leadingRun characters
  if digitLimit < runLength run && underscoresFit false run then
    .error (.tooLong (runLength run))
  else
    match readSigned characters with
    | some value => .ok value
    | none => .error .malformed

end SqlMapping.Text
