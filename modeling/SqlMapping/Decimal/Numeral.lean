import SqlMapping.Decimal.Shortest

/-!
# Written numbers

A written number is a sign, decimal digits with or without a point, and possibly a power of
ten.  It is read exactly, as an integer times a power of ten, and from there rounded to a
floating-point number or written again in the canonical form of decimals, which keeps trailing
zeros.
-/

namespace SqlMapping.Decimal

/-- A signed integer times a power of ten. -/
structure Numeral where
  negative : Bool
  digits : Nat
  power : Int
deriving DecidableEq

/-- The value of a text of ASCII digits. -/
def digitsValue (digits : List Char) : Nat :=
  digits.foldl (fun value digit => value * 10 + (digit.toNat - 48)) 0

/-- Split a sign from a text. -/
def takeSign : List Char → Bool × List Char
  | '-' :: rest => (true, rest)
  | '+' :: rest => (false, rest)
  | rest => (false, rest)

/-- Read the power of ten that ends a written number. -/
def readPower : List Char → Option Int
  | [] => some 0
  | mark :: rest =>
    let (negative, digits) := takeSign rest
    if (mark = 'e' || mark = 'E') && !digits.isEmpty && digits.all Char.isDigit then
      let value : Int := digitsValue digits
      some (if negative then -value else value)
    else none

/-- Read a written number that has at least one digit. -/
def Numeral.read (characters : List Char) : Option Numeral :=
  let (negative, unsigned) := takeSign characters
  let whole := unsigned.takeWhile Char.isDigit
  let afterWhole := unsigned.dropWhile Char.isDigit
  let (fraction, afterFraction) :=
    match afterWhole with
    | '.' :: rest => (rest.takeWhile Char.isDigit, rest.dropWhile Char.isDigit)
    | rest => ([], rest)
  if whole.isEmpty && fraction.isEmpty then none
  else
    (readPower afterFraction).map fun power =>
      ⟨negative, digitsValue (whole ++ fraction), power - fraction.length⟩

/-- The exact value of a written number. -/
def Numeral.toExact (number : Numeral) : Exact :=
  let magnitude : Int := number.digits
  { significand := if number.negative then -magnitude else magnitude
    tens := number.power }

/-- The floating-point number nearest to a written number. -/
def Numeral.toBinary64 (number : Numeral) : Binary64 :=
  Binary64.ofDecimal number.negative number.digits number.power

/-- The canonical text of a decimal: positional while at most six zeros follow the point. -/
def Numeral.text (number : Numeral) : String :=
  let digits := Nat.toDigits 10 number.digits
  let length : Int := digits.length
  let left := number.power + length
  let point : Int := if number.power ≤ 0 ∧ -6 < left then left else 1
  let body :=
    if point ≤ 0 then '0' :: '.' :: (List.replicate (-point).toNat '0' ++ digits)
    else if length ≤ point then digits ++ List.replicate (point - length).toNat '0'
    else digits.take point.toNat ++ '.' :: digits.drop point.toNat
  let power := left - point
  let exponent :=
    if power = 0 then []
    else 'E' :: (if power < 0 then '-' else '+') :: Nat.toDigits 10 power.natAbs
  String.ofList ((if number.negative then ['-'] else []) ++ body ++ exponent)

end SqlMapping.Decimal
