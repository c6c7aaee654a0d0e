import SqlMapping.Calendar.Clock

/-!
# Points in time

A point in time is a date and a time of the day.  It is written as both with a mark between
them, or as a number of seconds since the first moment of 1970.  A number too great for that
counts thousandths of seconds instead.
-/

namespace SqlMapping.Calendar

/-- A date and a time of the day. -/
structure Moment where
  date : Date
  clock : Clock := {}
deriving DecidableEq

namespace Moment

/-- The text of a point in time. -/
def text (moment : Moment) : List Char :=
  moment.date.text ++ 'T' :: moment.clock.text

/-- Read a date, a separator and a time. -/
def readWritten (characters : List Char) : Option Moment := do
  let date ← Date.read (characters.take 10)
  match characters.drop 10 with
  | separator :: rest =>
    guard (['T', 't', ' ', '_'].contains separator)
    let clock ← Clock.read rest
    return ⟨date, clock⟩
  | [] => none

/-- The number of millionths of seconds between the start of 1970 and a day's first moment. -/
def dayPosition (date : Date) : Int :=
  date.number * (Clock.daySeconds * Clock.million : Nat)

/-- The number of millionths of seconds between a point in time and the start of 1970. -/
def position (moment : Moment) : Int :=
  dayPosition moment.date + moment.clock.position

/-- The order of two points in time: in universal time if both have zones, else as written. -/
def order (left right : Moment) : Ordering :=
  if left.clock.zone.isSome && right.clock.zone.isSome then
    compare left.position right.position
  else
    compare (dayPosition left.date + left.clock.localPosition)
      (dayPosition right.date + right.clock.localPosition)

/-! ## Numbers of seconds -/

/-- Whole seconds since the start of 1970, with millionths after them. -/
structure Timestamp where
  seconds : Int
  millionths : Nat := 0

namespace Timestamp

/-- The greatest number that counts seconds. -/
def greatestSeconds : Nat := 20000000000

/-- The first and the last second that a number can stand for. -/
def bounds : Int × Int := (-62167219200, 253402300799)

/-- The timestamp of an integer. -/
def ofInt (number : Int) : Timestamp :=
  if number.natAbs ≤ greatestSeconds then ⟨number, 0⟩
  else ⟨number.fdiv 1000, (number.fmod 1000).toNat * 1000⟩

/-- The floating-point number next to an exact number, as an exact number. -/
def rounded (number : Decimal.Exact) : Option Decimal.Exact :=
  (Decimal.Binary64.ofExact number).toExact?

/--
The whole seconds below a number of seconds, and the millionths between the two.  The difference
and its size in millionths are floating-point numbers.
-/
def ofSeconds? (number : Decimal.Exact) : Option Timestamp := do
  let whole := number.floor
  let places ← rounded (number.sub (.ofInt whole))
  let scaled ← rounded (places.times Clock.million)
  let millionths := scaled.round.toNat
  return ⟨whole + millionths / Clock.million, millionths % Clock.million⟩

/-- The timestamp of a floating-point number that is finite. -/
def ofFloat? (number : Decimal.Binary64) : Option Timestamp := do
  let exact ← number.toExact?
  let distance := { exact with significand := exact.significand.natAbs }
  if distance.order (.ofInt greatestSeconds) == .gt then
    ofSeconds? (← rounded { exact with tens := exact.tens - 3 })
  else ofSeconds? exact

/-- The point in time of a timestamp, in universal time. -/
def moment? (timestamp : Timestamp) : Option Moment :=
  if timestamp.seconds < bounds.1 || bounds.2 < timestamp.seconds then none
  else
    (Date.ofNumber? (timestamp.seconds.fdiv (Clock.daySeconds : Nat))).map fun date =>
      ⟨date, .ofSeconds (timestamp.seconds.fmod (Clock.daySeconds : Nat)).toNat
        timestamp.millionths⟩

end Timestamp

end Moment

end SqlMapping.Calendar
