/-!
# Exact numbers

Integers, binary floating-point numbers and decimals are compared without rounding: each of
them is an integer times a power of two and a power of ten.
-/

namespace SqlMapping.Decimal

/-- An integer times a power of two and a power of ten. -/
structure Exact where
  significand : Int
  twos : Int := 0
  tens : Int := 0

namespace Exact

/-- The exact number of an integer. -/
def ofInt (value : Int) : Exact := { significand := value }

/-- The number of decimal digits of a natural number. -/
def digitCount (value : Nat) : Nat := (Nat.toDigits 10 value).length

/-- The position of the first digit, up to two places. -/
def magnitude (number : Exact) : Int :=
  digitCount number.significand.natAbs + number.tens + number.twos * 30103 / 100000

/-- The significand in units of smaller powers of two and of ten. -/
def scaledTo (number : Exact) (twos tens : Int) : Int :=
  number.significand * Nat.pow 2 (number.twos - twos).toNat
    * Nat.pow 10 (number.tens - tens).toNat

/-- Comparison of significands in units of the smaller powers. -/
def orderScaled (left right : Exact) : Ordering :=
  let twos := min left.twos right.twos
  let tens := min left.tens right.tens
  compare (left.scaledTo twos tens) (right.scaledTo twos tens)

/--
Exact comparison.  Numbers of one sign whose first digits are far apart are told apart by
their magnitudes, so that huge powers need not be computed.
-/
def order (left right : Exact) : Ordering :=
  let sign := compare left.significand.sign right.significand.sign
  if sign != .eq || left.significand = 0 then sign
  else
    let apart := left.magnitude - right.magnitude
    if 4 < apart.natAbs then
      if (0 < apart) = (0 < left.significand) then .gt else .lt
    else orderScaled left right

/-- The difference of two numbers. -/
def sub (left right : Exact) : Exact :=
  let twos := min left.twos right.twos
  let tens := min left.tens right.tens
  { significand := left.scaledTo twos tens - right.scaledTo twos tens, twos, tens }

/-- A number times an integer. -/
def times (number : Exact) (factor : Int) : Exact :=
  { number with significand := number.significand * factor }

/-- The quotient of two integers, if it is an integer. -/
def exactQuotient? (value : Int) (divisor : Nat) : Option Int :=
  if value % divisor = 0 then some (value / divisor) else none

/-- The number as an integer, if it is one. -/
def toInt? (number : Exact) : Option Int :=
  if number.significand = 0 then some 0
  else if number.magnitude < -4 then none
  else
    exactQuotient?
      (number.significand * Nat.pow 2 number.twos.toNat * Nat.pow 10 number.tens.toNat)
      (Nat.pow 2 (-number.twos).toNat * Nat.pow 10 (-number.tens).toNat)

/-- The integer next to the number in the direction of zero. -/
def truncate (number : Exact) : Int :=
  if number.magnitude < -4 then 0
  else
    (number.significand * Nat.pow 2 number.twos.toNat * Nat.pow 10 number.tens.toNat).tdiv
      (Nat.pow 2 (-number.twos).toNat * Nat.pow 10 (-number.tens).toNat : Nat)

/-- The greatest integer that does not exceed the number. -/
def floor (number : Exact) : Int :=
  let whole := number.truncate
  if number.order (ofInt whole) == .lt then whole - 1 else whole

/-- A number compares equal to itself. -/
@[simp]
theorem order_self (number : Exact) : number.order number = .eq := by
  have scaled : orderScaled number number = .eq := by
    simp [orderScaled, Std.ReflCmp.compare_self]
  simp [order, scaled, Std.ReflCmp.compare_self]

end Exact

end SqlMapping.Decimal
