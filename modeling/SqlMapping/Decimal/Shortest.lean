import SqlMapping.Decimal.Binary64

/-!
# Shortest decimal texts

A finite floating-point number is written with the fewest significant digits that read back as
the same number, and with the nearest such decimal among those.  The search tries one digit,
two digits and so on up to seventeen; on each decimal grid only the two neighbours of the
number can be the answer.
-/

namespace SqlMapping.Decimal

/--
The positive reals that read back as one number, in units of `2 ^ exponent`: the number itself
is `centre`, and its ends belong to it when `closed` holds.
-/
structure Interval where
  lower : Nat
  centre : Nat
  upper : Nat
  closed : Bool
  exponent : Int

/-- The interval of a positive finite number. -/
def Binary64.interval (number : Binary64) : Interval :=
  let significand := number.significand
  let narrowBelow := number.fractionBits = 0 && 1 < number.exponentBits
  { lower := 4 * significand - (if narrowBelow then 1 else 2)
    centre := 4 * significand
    upper := 4 * significand + 2
    closed := significand % 2 = 0
    exponent := number.scale - 2 }

/-- Decimal digits and the position of the point before which they stand. -/
structure Digits where
  digits : Nat
  point : Int

/--
The neighbour of the interval's centre on the grid of multiples of `10 ^ grid` that lies in the
interval and is nearest to the centre; of two equally near ones the even multiple.
-/
def Interval.nearest? (interval : Interval) (grid : Int) : Option Nat :=
  let binary := Nat.pow 2 interval.exponent.toNat * Nat.pow 10 (-grid).toNat
  let decimal := Nat.pow 2 (-interval.exponent).toNat * Nat.pow 10 grid.toNat
  let centre := interval.centre * binary
  let inside (candidate : Nat) : Bool :=
    let position := candidate * decimal
    if interval.closed then
      interval.lower * binary ≤ position && position ≤ interval.upper * binary
    else
      interval.lower * binary < position && position < interval.upper * binary
  let below := centre / decimal
  let above := below + 1
  let distanceBelow := centre - below * decimal
  let distanceAbove := above * decimal - centre
  match inside below, inside above with
  | true, false => some below
  | false, true => some above
  | false, false => none
  | true, true =>
    if distanceBelow < distanceAbove then some below
    else if distanceAbove < distanceBelow then some above
    else if below % 2 = 0 then some below else some above

/-- The position of the decimal point: the number is below `10 ^ point` and not below a tenth. -/
def Interval.point (interval : Interval) : Int :=
  let scaled :=
    interval.centre * Nat.pow 2 interval.exponent.toNat * Nat.pow 10 330
      / Nat.pow 2 (-interval.exponent).toNat
  ((Nat.toDigits 10 scaled).length : Int) - 330

/-- Try growing numbers of digits until a decimal of that length lies in the interval. -/
def Interval.search (interval : Interval) (point : Int) : (fuel : Nat) → (length : Nat) → Digits
  | 0, length => ⟨0, point - length⟩
  | fuel + 1, length =>
    match interval.nearest? (point - length) with
    | some digits => ⟨digits, point - length⟩
    | none => interval.search point fuel (length + 1)

/-- The shortest decimal of a positive finite number, as digits and a power of ten. -/
def Binary64.shortest (number : Binary64) : Digits :=
  number.interval.search number.interval.point 17 1

/-- Drop trailing zeros, each of which raises the power of ten. -/
def Digits.normalize : (fuel : Nat) → Digits → Digits
  | 0, decimal => decimal
  | fuel + 1, ⟨digits, power⟩ =>
    if digits ≠ 0 && digits % 10 = 0 then Digits.normalize fuel ⟨digits / 10, power + 1⟩
    else ⟨digits, power⟩

/-- How the writer of decimals chooses between its two forms. -/
structure Style where
  /-- The point may stand this far after the first digit in positional form. -/
  lastPositional : Int
  /-- The point may stand this far before the first digit in positional form. -/
  firstPositional : Int
  /-- The least number of digits of an exponent. -/
  exponentWidth : Nat
  infinityText : String
  missingText : String

/-- Positional from `1e-4` up to sixteen integer digits, exponents of two digits at least. -/
def plainStyle : Style := ⟨16, -3, 2, "inf", "nan"⟩

/-- The same forms with the words that array texts use for what is not a finite number. -/
def arrayStyle : Style := ⟨16, -3, 2, "Infinity", "NaN"⟩

/-- The digits of a number, padded with zeros on the left to a least width. -/
def paddedDigits (width value : Nat) : List Char :=
  let digits := Nat.toDigits 10 value
  List.replicate (width - digits.length) '0' ++ digits

/-- The text of a positive finite decimal. -/
def Digits.text (style : Style) (decimal : Digits) : List Char :=
  let digits := Nat.toDigits 10 decimal.digits
  let point := decimal.point + digits.length
  if style.firstPositional ≤ point ∧ point ≤ style.lastPositional then
    if point ≤ 0 then
      '0' :: '.' :: (List.replicate (-point).toNat '0' ++ digits)
    else
      let whole := digits.take point.toNat
      let fraction := digits.drop point.toNat
      let padding := List.replicate (point.toNat - digits.length) '0'
      whole ++ padding ++ '.' :: (if fraction.isEmpty then ['0'] else fraction)
  else
    let exponent := point - 1
    let fraction := digits.drop 1
    let mark := if exponent < 0 then '-' else '+'
    digits.take 1 ++ (if fraction.isEmpty then [] else '.' :: fraction)
      ++ 'e' :: mark :: paddedDigits style.exponentWidth exponent.natAbs

/-- The text of a floating-point number. -/
def Binary64.text (style : Style) (number : Binary64) : String :=
  if number.isNaN then style.missingText
  else
    let magnitude :=
      if number.isSpecial then style.infinityText.toList
      else if number.isZero then ['0', '.', '0']
      else (Digits.normalize 17 number.shortest).text style
    String.ofList (if number.isNegative then '-' :: magnitude else magnitude)

end SqlMapping.Decimal
