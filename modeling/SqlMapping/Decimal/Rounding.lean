import SqlMapping.Decimal.Exact

/-!
# Rounding

A quotient of natural numbers is rounded to the nearest one.  Where it lies in the middle of two
it goes to the even one or to the greater one.
-/

namespace SqlMapping.Decimal

/-- Where a quotient goes that lies in the middle of two numbers. -/
inductive Tie where
  | toEven
  | upward
deriving DecidableEq

/-- The natural number nearest to a quotient. -/
def roundDiv (tie : Tie) (numerator denominator : Nat) : Nat :=
  let whole := numerator / denominator
  let twice := 2 * (numerator % denominator)
  if twice < denominator then whole
  else if denominator < twice then whole + 1
  else
    match tie with
    | .toEven => whole + whole % 2
    | .upward => whole + 1

namespace Exact

/-- The size of a number as a quotient of natural numbers. -/
def ratio (number : Exact) : Nat × Nat :=
  (number.significand.natAbs * Nat.pow 2 number.twos.toNat * Nat.pow 10 number.tens.toNat,
    Nat.pow 2 (-number.twos).toNat * Nat.pow 10 (-number.tens).toNat)

/-- The integer nearest to a number; a half goes away from zero. -/
def round (number : Exact) : Int :=
  let (numerator, denominator) := number.ratio
  let size : Int := roundDiv .upward numerator denominator
  if number.significand < 0 then -size else size

end Exact

end SqlMapping.Decimal
