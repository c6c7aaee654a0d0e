import SqlMapping.Decimal.Rounding

/-!
# Binary floating-point numbers

A floating-point number is kept as its 64 bits, so that equality of values is decidable and
signed zeros stay apart.  Its exact value is an integer times a power of two.
-/

namespace SqlMapping.Decimal

/-- A floating-point number, by its bits: sign, eleven exponent bits, 52 fraction bits. -/
structure Binary64 where
  bits : UInt64
deriving DecidableEq

namespace Binary64

/-- Whether the sign bit is set. -/
def isNegative (number : Binary64) : Bool := number.bits >>> 63 == 1

/-- The eleven exponent bits. -/
def exponentBits (number : Binary64) : Nat := ((number.bits >>> 52) &&& 0x7FF).toNat

/-- The 52 fraction bits. -/
def fractionBits (number : Binary64) : Nat := (number.bits &&& 0xFFFFFFFFFFFFF).toNat

/-- Whether the number is infinite or not a number. -/
def isSpecial (number : Binary64) : Bool := number.exponentBits == 0x7FF

/-- Whether the bits stand for no number at all. -/
def isNaN (number : Binary64) : Bool := number.isSpecial && number.fractionBits != 0

/-- Whether the number is zero of either sign. -/
def isZero (number : Binary64) : Bool :=
  number.exponentBits == 0 && number.fractionBits == 0

/-- The significand without its sign: an implicit bit precedes the fraction of normal numbers. -/
def significand (number : Binary64) : Nat :=
  if number.exponentBits = 0 then number.fractionBits else number.fractionBits + 0x10000000000000

/-- The power of two that the significand counts. -/
def scale (number : Binary64) : Int :=
  if number.exponentBits = 0 then -1074 else (number.exponentBits : Int) - 1075

/-- The number with its sign bit turned over. -/
def negate (number : Binary64) : Binary64 := ⟨number.bits ^^^ 0x8000000000000000⟩

/-- The exact value of a finite number. -/
def toExact? (number : Binary64) : Option Exact :=
  if number.isSpecial then none
  else
    let magnitude : Int := number.significand
    some
      { significand := if number.isNegative then -magnitude else magnitude
        twos := number.scale }

/-- Positive infinity. -/
def infinity : Binary64 := ⟨0x7FF0000000000000⟩

/-- The mark that stands for no number. -/
def notANumber : Binary64 := ⟨0x7FF8000000000000⟩

/-- The bits of infinity, which those of every finite number are below. -/
def infinityBits : Nat := 0x7FF0000000000000

/-- The least power of two that a significand counts. -/
def leastScale : Int := -1074

/--
The number nearest to a quotient; of two equally near ones that with the even significand.  A
significand has 53 bits unless its scale is the least one, and one that is rounded to more moves
to the next scale by itself.
-/
def ofRatio (numerator denominator : Nat) : Binary64 :=
  if numerator = 0 then ⟨0⟩
  else
    let scaled (scale : Int) : Nat × Nat :=
      (numerator * Nat.pow 2 (-scale).toNat, denominator * Nat.pow 2 scale.toNat)
    let estimate : Int := (Nat.log2 numerator : Int) - Nat.log2 denominator - 52
    let (numeratorThere, denominatorThere) := scaled estimate
    let isFull := 0x10000000000000 ≤ numeratorThere / denominatorThere
    let scale := max leastScale (if isFull then estimate else estimate - 1)
    let (numeratorHere, denominatorHere) := scaled scale
    let bits := (scale - leastScale).toNat * 0x10000000000000
      + roundDiv .toEven numeratorHere denominatorHere
    if infinityBits ≤ bits then infinity else ⟨bits.toUInt64⟩

/-- The number nearest to an exact number. -/
def ofExact (number : Exact) : Binary64 :=
  let (numerator, denominator) := number.ratio
  let magnitude := ofRatio numerator denominator
  if number.significand < 0 then magnitude.negate else magnitude

/-- The number nearest to `digits * 10 ^ exponent`; what is too great for a number is infinite. -/
def ofScaled (digits : Nat) (exponent : Int) : Binary64 :=
  let point := exponent + Exact.digitCount digits
  if digits = 0 || point < -400 then ⟨0⟩
  else if 400 < point then infinity
  else ofRatio (digits * Nat.pow 10 exponent.toNat) (Nat.pow 10 (-exponent).toNat)

/-- The number nearest to `digits * 10 ^ exponent`, with the given sign. -/
def ofDecimal (negative : Bool) (digits : Nat) (exponent : Int) : Binary64 :=
  let magnitude := ofScaled digits exponent
  if negative then magnitude.negate else magnitude

/-- Two to the power of a negative integer; what is too small for a number is zero. -/
def ofDyadicUnit (exponent : Int) : Binary64 :=
  if -1022 ≤ exponent then ⟨(exponent + 1023).toNat.toUInt64 <<< 52⟩
  else if -1074 ≤ exponent then ⟨1 <<< (exponent + 1074).toNat.toUInt64⟩
  else ⟨0⟩

/-- The number nearest to an integer. -/
def ofInt (value : Int) : Binary64 :=
  if value = 0 then ⟨0⟩ else ofDecimal (value < 0) value.natAbs 0

end Binary64

end SqlMapping.Decimal
