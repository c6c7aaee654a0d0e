import SqlMapping.Decimal.Extended

/-!
# Arithmetic with 28 digits

Decimals are read with all their digits, but the results of operations on them have at most 28,
and their first digit stands for a power of ten between -999999 and 999999.  A result is rounded
to the nearest such decimal, of two equally near ones to the even one.  What has no result gives
a signal.
-/

namespace SqlMapping.Decimal

/-- Why an operation on decimals has no result. -/
inductive Signal where
  /-- An operand is no number that the operation is defined for. -/
  | invalidOperand
  | zeroDivisor
  /-- Zero was divided by zero. -/
  | undefinedQuotient
  /-- A remainder was asked for where the quotient has too many digits. -/
  | impossibleRemainder
  /-- The first digit of the result stands for too great a power of ten. -/
  | overflow
deriving DecidableEq

/-- The wording of a signal. -/
def Signal.message (signal : Signal) : String :=
  let name :=
    match signal with
    | .invalidOperand => "InvalidOperation"
    | .zeroDivisor => "DivisionByZero"
    | .undefinedQuotient => "DivisionUndefined"
    | .impossibleRemainder => "DivisionImpossible"
    | .overflow => "Overflow"
  "[<class 'decimal." ++ name ++ "'>]"

namespace Bounded

/-- The most digits of a result. -/
def precision : Nat := 28

/-- The greatest power of ten that the first digit of a result can stand for. -/
def greatestPower : Int := 999999

/-- The least power of ten that the last digit of a result can stand for. -/
def leastPower : Int := -1000026

/-- The integer of digits that is too great by one digit. -/
def ceiling : Nat := Nat.pow 10 precision

/-- A numerator and a denominator, the quotient of which is divided by a power of ten. -/
def dropping (numerator denominator : Nat) (drop : Int) : Nat × Nat :=
  (numerator * Nat.pow 10 (-drop).toNat, denominator * Nat.pow 10 drop.toNat)

/--
The result that is nearest to a quotient times a power of ten, as digits and a power of ten.  So
many last digits are dropped that no more than 28 are left, and none is below the least power.
-/
def ofRatio (numerator denominator : Nat) (power : Int) : Except Signal (Nat × Int) :=
  let lead : Int := (Exact.digitCount numerator : Int) - Exact.digitCount denominator
  if numerator = 0 || lead + power + 1 < leastPower then .ok (0, 0)
  else
    let estimate := lead - precision
    let (numeratorThere, denominatorThere) := dropping numerator denominator estimate
    let isLong := ceiling ≤ numeratorThere / denominatorThere
    let drop := max (if isLong then estimate + 1 else estimate) (leastPower - power)
    let (numeratorHere, denominatorHere) := dropping numerator denominator drop
    let digits := roundDiv .toEven numeratorHere denominatorHere
    if greatestPower < (Exact.digitCount digits : Int) - 1 + power + drop then .error .overflow
    else .ok (digits, power + drop)

/-- Drop zeros from the end of some digits, each of which raises the power of ten. -/
def dropZeros : (fuel : Nat) → Nat → Int → Nat × Int
  | 0, digits, power => (digits, power)
  | fuel + 1, digits, power =>
    if digits % 10 = 0 then dropZeros fuel (digits / 10) (power + 1) else (digits, power)

end Bounded

namespace Numeral

/-- The result nearest to a number, without zeros at its end. -/
def normalized (number : Numeral) : Except Signal Numeral := do
  let (digits, power) ← Bounded.ofRatio number.digits 1 number.power
  if digits = 0 then return { number with digits := 0, power := 0 }
  else
    let (digits, power) := Bounded.dropZeros (Bounded.precision + 1) digits power
    return { number with digits, power }

/-- Whether the quotient of two numbers, with at most 28 digits, is an integer. -/
def hasWholeQuotient (number step : Numeral) : Except Signal Bool := do
  if step.digits = 0 then
    throw (if number.digits = 0 then .undefinedQuotient else .zeroDivisor)
  let (digits, power) ← Bounded.ofRatio number.digits step.digits (number.power - step.power)
  if digits = 0 then return true
  else if (Bounded.precision : Int) < Exact.digitCount digits + power then
    throw .impossibleRemainder
  else if 0 ≤ power then return true
  else if (Bounded.precision : Int) < -power then return false
  else return digits % Nat.pow 10 power.natAbs = 0

/-- The power of ten that the first digit of a number stands for. -/
def firstPower (number : Numeral) : Int :=
  (Exact.digitCount number.digits : Int) - 1 + number.power

/--
Whether a number leaves no remainder, where the remainder has at most 28 digits and so does the
whole part of the quotient.  A number that is smaller than the step is its own remainder.
-/
def leavesNothing (number step : Numeral) : Except Signal Bool := do
  if step.digits = 0 then
    throw (if number.digits = 0 then .undefinedQuotient else .invalidOperand)
  let distance := number.firstPower - step.firstPower
  let isNothing (remainder : Nat) (power : Int) : Except Signal Bool := do
    return (← Bounded.ofRatio remainder 1 power).1 = 0
  if number.digits = 0 then return true
  else if distance < 0 then isNothing number.digits number.power
  else if (Bounded.precision : Int) < distance then throw .impossibleRemainder
  else
    let power := min number.power step.power
    let scaled := number.digits * Nat.pow 10 (number.power - power).toNat
    let divisor := step.digits * Nat.pow 10 (step.power - power).toNat
    if Bounded.ceiling ≤ scaled / divisor then throw .impossibleRemainder
    else isNothing (scaled % divisor) power

end Numeral

namespace Extended

/-- Whether the quotient of two decimals is an integer. -/
def hasWholeQuotient : Extended → Extended → Except Signal Bool
  | .finite number, .finite step => number.hasWholeQuotient step
  | .missing _ true _, _ | _, .missing _ true _ => .error .invalidOperand
  | .missing _ _ _, _ | _, .missing _ _ _ => .ok false
  | .infinite _, _ => .error .invalidOperand
  | .finite _, .infinite _ => .ok true

/-- Whether a decimal leaves no remainder. -/
def leavesNothing : Extended → Extended → Except Signal Bool
  | .finite number, .finite step => number.leavesNothing step
  | .missing _ true _, _ | _, .missing _ true _ => .error .invalidOperand
  | .missing _ _ _, _ | _, .missing _ _ _ => .ok false
  | .infinite _, _ => .error .invalidOperand
  | .finite number, .infinite _ =>
    (Bounded.ofRatio number.digits 1 number.power).map fun remainder => remainder.1 = 0

end Extended

end SqlMapping.Decimal
