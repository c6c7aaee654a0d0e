import SqlMapping.Decimal.Numeral
import SqlMapping.Text.Integer

/-!
# Decimals

A decimal is a written number, an infinity, or a mark that stands for no number.  A mark may
carry digits, and it may signal, which keeps it from being used at all.  Digits of every script
are read by their decimal value; underscores and the blanks around a decimal do not count.  The
powers of ten that a decimal can have are bounded.
-/

namespace SqlMapping.Decimal

/-- A written number, an infinity or a mark that stands for no number. -/
inductive Extended where
  | finite (number : Numeral)
  | infinite (negative : Bool)
  | missing (negative signals : Bool) (payload : List Char)
deriving DecidableEq

namespace Extended

/-- The words for infinity. -/
def infinityWords : List String := ["inf", "infinity"]

/-- Read the word of an infinity or of a mark, whose sign has been taken. -/
def readWord (negative : Bool) (word : List Char) : Option Extended :=
  if infinityWords.contains (String.ofList word) then some (.infinite negative)
  else
    let (signals, mark) :=
      match word with
      | 's' :: rest => (true, rest)
      | rest => (false, rest)
    match mark with
    | 'n' :: 'a' :: 'n' :: payload =>
      if payload.all Char.isDigit then
        some (.missing negative signals (payload.dropWhile (· = '0')))
      else none
    | _ => none

/-- A digit of any script as an ASCII digit. -/
def plainDigit (character : Char) : Char :=
  match Text.digitValue? character with
  | some digit => Nat.digitChar digit
  | none => character

/-- The least power of ten that the last digit of a decimal can stand for. -/
def leastPower : Int := -1999999999999999997

/-- The greatest power of ten that the first digit of a decimal can stand for. -/
def greatestPower : Int := 999999999999999999

/-- Whether the powers of ten that the digits of a number stand for are within the bounds. -/
def isInRange (number : Numeral) : Bool :=
  leastPower ≤ number.power
    && number.power + Exact.digitCount number.digits - 1 ≤ greatestPower

/-- A number as a decimal, if its powers of ten are within the bounds. -/
def ofNumeral? (number : Numeral) : Option Extended :=
  if isInRange number then some (.finite number) else none

/-- Read a decimal. -/
def read (text : List Char) : Option Extended :=
  let characters := ((Text.trimBlanks text).filter (· ≠ '_')).map plainDigit
  match Numeral.read characters with
  | some number => ofNumeral? number
  | none =>
    let (negative, word) := takeSign characters
    readWord negative (word.map Char.toLower)

/-- The canonical text of a decimal. -/
def text : Extended → String
  | .finite number => number.text
  | .infinite negative => (if negative then "-" else "") ++ "Infinity"
  | .missing negative signals payload =>
    (if negative then "-" else "") ++ (if signals then "sNaN" else "NaN") ++ String.ofList payload

/-- The floating-point number nearest to a decimal, unless it signals. -/
def toBinary64? : Extended → Option Binary64
  | .finite number => some number.toBinary64
  | .infinite negative => some (if negative then Binary64.infinity.negate else .infinity)
  | .missing _ true _ => none
  | .missing negative false _ =>
    some (if negative then Binary64.notANumber.negate else .notANumber)

/-- The exact value of a decimal that is a number. -/
def toExact? : Extended → Option Exact
  | .finite number => some number.toExact
  | .infinite _ | .missing _ _ _ => none

end Extended

end SqlMapping.Decimal
