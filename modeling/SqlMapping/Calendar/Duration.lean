import SqlMapping.Calendar.Moment

/-!
# Spans of time

A span of time is a number of millionths of seconds, which may be negative.  It is written in one
of three forms, each with a sign in front or without one: as counts of units after the letter `P`,
such as `P1DT2H`; as hours, minutes and seconds between colons; or as a number of days, after
which hours, minutes and seconds may follow.
-/

namespace SqlMapping.Calendar

/-- A span of time. -/
structure Duration where
  millionths : Int
deriving DecidableEq

namespace Duration

/-- The number of millionths of seconds of a day. -/
def dayMillionths : Nat := Clock.daySeconds * Clock.million

/-- The whole days of a span, which are negative for a negative one. -/
def days (span : Duration) : Int := span.millionths.fdiv dayMillionths

/-- What a span has beyond its whole days. -/
def withinDay (span : Duration) : Nat := (span.millionths.fmod dayMillionths).toNat

/-- The text of a number of days, if there are any. -/
def dayText (days : Int) : String :=
  if days = 0 then ""
  else toString days ++ (if days.natAbs = 1 then " day, " else " days, ")

/-- The text of a span: its days, and the hours, minutes and seconds beyond them. -/
def text (span : Duration) : String :=
  let seconds := span.withinDay / Clock.million
  let places := span.withinDay % Clock.million
  dayText span.days ++ toString (seconds / 3600) ++ String.ofList
    (':' :: Decimal.paddedDigits 2 (seconds / 60 % 60)
      ++ ':' :: Decimal.paddedDigits 2 (seconds % 60)
      ++ (if places = 0 then [] else '.' :: Decimal.paddedDigits 6 places))

/-- The days, seconds and millionths of a span, without those that are zero. -/
def parts (span : Duration) : List (String × Int) :=
  [("days", span.days), ("seconds", ((span.withinDay / Clock.million : Nat) : Int)),
    ("microseconds", ((span.withinDay % Clock.million : Nat) : Int))].filter fun part =>
      part.2 ≠ 0

/-! ## Counts -/

/-- What the parts of a span add up to. -/
structure Counts where
  days : Nat := 0
  seconds : Nat := 0
  millionths : Nat := 0

namespace Counts

/-- The greatest count, which has 32 bits. -/
def greatest : Nat := 4294967295

/-- A count that is not too great. -/
def checked (count : Nat) : Option Nat :=
  if count ≤ greatest then some count else none

/-- Add counts to counts, unless one of them becomes too great. -/
def add (left right : Counts) : Option Counts := do
  let days ← checked (left.days + right.days)
  let seconds ← checked (left.seconds + right.seconds)
  let millionths ← checked (left.millionths + right.millionths)
  return ⟨days, seconds, millionths⟩

/-- The most days of a span. -/
def mostDays : Nat := 999999999

/-- The span of some counts, unless it has too many days. -/
def toDuration? (negative : Bool) (counts : Counts) : Option Duration :=
  let seconds := counts.seconds + counts.millionths / Clock.million
  let days := counts.days + seconds / Clock.daySeconds
  let size : Int := (counts.days * Clock.daySeconds + counts.seconds) * Clock.million
    + counts.millionths
  if days ≤ mostDays then some ⟨if negative then -size else size⟩ else none

end Counts

/-! ## Counts of units -/

/-- The number of days of the units in front of the letter `T`. -/
def dayUnits : List (Char × Nat) := [('Y', 365), ('M', 30), ('W', 7), ('D', 1)]

/-- The number of seconds of the units after the letter `T`. -/
def secondUnits : List (Char × Nat) := [('H', 3600), ('M', 60), ('S', 1)]

/-- The whole part of a number, and the floating-point number next to the rest of it. -/
def splitWhole (number : Decimal.Exact) : Option (Nat × Decimal.Exact) := do
  let whole := number.truncate
  let rest ← Moment.Timestamp.rounded (number.sub (.ofInt whole))
  return (whole.toNat, rest)

/-- A part of a second in millionths. -/
def millionthsOf (rest : Decimal.Exact) : Option Nat :=
  (Moment.Timestamp.rounded (rest.times Clock.million)).map fun scaled => scaled.round.toNat

/--
The fraction that digits after a point write.  It is the quotient of their value by a power of
ten, and both are summed up in floating-point numbers, digit by digit.
-/
def fractionOf? (digits : List Char) : Option Decimal.Exact := do
  let shifted (number : Decimal.Exact) : Option Decimal.Exact :=
    Moment.Timestamp.rounded (number.times 10)
  let value ← digits.foldlM (fun number digit => do
    Moment.Timestamp.rounded
      ((← shifted number).sub (.ofInt (-(Decimal.digitsValue [digit] : Int))))) (.ofInt 0)
  let power ← digits.foldlM (fun number _ => shifted number) (.ofInt 1)
  (Decimal.Binary64.ofRatio (value.ratio.1 * power.ratio.2)
    (value.ratio.2 * power.ratio.1)).toExact?

/-- The counts of a fraction of a unit. -/
def fractionCounts (inDays : Bool) (unit : Nat) (share : Decimal.Exact) : Option Counts := do
  let (whole, rest) ← splitWhole (← Moment.Timestamp.rounded (share.times unit))
  if inDays then
    let seconds ← Moment.Timestamp.rounded (rest.times Clock.daySeconds)
    let (second, rest) ← splitWhole seconds
    return ⟨whole, second, ← millionthsOf rest⟩
  else return ⟨0, whole, ← millionthsOf rest⟩

/--
The counts of a number of units; the digits after the point are given as text.  So many digits that
they write no floating-point number count for nothing.
-/
def unitCounts (inDays : Bool) (unit number : Nat) (places : Option (List Char)) :
    Option Counts := do
  let count ← Counts.checked (number * unit)
  let whole : Counts := if inDays then { days := count } else { seconds := count }
  match places with
  | none => return whole
  | some digits =>
    match fractionOf? digits with
    | none => return whole
    | some share => whole.add (← fractionCounts inDays unit share)

/-- Take digits from the front of a text, of which there has to be one. -/
def takeDigits (characters : List Char) : Option (Nat × List Char) := do
  let digits := characters.takeWhile Char.isDigit
  guard !digits.isEmpty
  let number ← Counts.checked (Decimal.digitsValue digits)
  return (number, characters.dropWhile Char.isDigit)

/-- Take the digits after a point or comma, if there is one. -/
def takePlaces : List Char → Option (List Char) × List Char
  | mark :: rest =>
    if mark = '.' || mark = ',' then
      (some (rest.takeWhile Char.isDigit), rest.dropWhile Char.isDigit)
    else (none, mark :: rest)
  | [] => (none, [])

/-- Read counts of units; just the last one may have digits after a point. -/
def readUnits : (fuel : Nat) → (inDays hadPlaces : Bool) → Counts → List Char → Option Counts
  | 0, _, _, _, _ => none
  | _ + 1, _, _, counts, [] => some counts
  | fuel + 1, inDays, hadPlaces, counts, 'T' :: rest =>
    if inDays then readUnits fuel false hadPlaces counts rest else none
  | fuel + 1, inDays, hadPlaces, counts, characters => do
    let (number, rest) ← takeDigits characters
    let (places, rest) := takePlaces rest
    guard !hadPlaces
    match rest with
    | [] => none
    | letter :: rest =>
      let unit ← (if inDays then dayUnits else secondUnits).lookup letter
      let more ← unitCounts inDays unit number places
      readUnits fuel inDays places.isSome (← counts.add more) rest

/-! ## Clocks and days -/

/-- The most hours in front of a colon. -/
def mostHours : Nat := 2400000000

/-- The minutes and seconds of a clock that shows the full hour. -/
def fullHour : List Char := "00:00.000000".toList

/-- Put characters in the place of the first ones of others, whose number stays. -/
def overlay (others characters : List Char) : List Char :=
  characters.take others.length ++ others.drop characters.length

/--
Read hours of any number, minutes and possibly seconds between colons.  What is left out at the end
is taken from the full hour, and what goes beyond millionths is dropped.
-/
def readClock (characters : List Char) : Option Counts := do
  guard (5 ≤ characters.length)
  let hours := characters.takeWhile (· ≠ ':')
  guard (hours.all Char.isDigit && Decimal.digitsValue hours ≤ mostHours)
  match characters.dropWhile (· ≠ ':') with
  | [] => none
  | _ :: rest =>
    let clock ← Clock.read ('0' :: '0' :: ':' :: overlay fullHour rest)
    guard clock.zone.isNone
    let hour := Decimal.digitsValue hours
    return ⟨hour / 24, hour % 24 * 3600 + clock.seconds, clock.millionths⟩

/-- Drop the word for days, which one letter is enough for. -/
def dropDayWord : List Char → Option (List Char)
  | letter :: rest =>
    if letter.toLower ≠ 'd' then none
    else
      match rest.map Char.toLower with
      | 'a' :: 'y' :: 's' :: _ => some (rest.drop 3)
      | 'a' :: 'y' :: _ => some (rest.drop 2)
      | 'a' :: _ => none
      | _ => some rest
  | [] => none

/-- Drop a character from the front of a text, if the text begins with it. -/
def dropOne (character : Char) : List Char → List Char
  | first :: rest => if first = character then rest else first :: rest
  | [] => []

/-- Read a number of days, and the hours, minutes and seconds after it. -/
def readDays (characters : List Char) : Option Counts := do
  let (number, rest) ← takeDigits characters
  let rest ← dropDayWord (dropOne ' ' rest)
  match dropOne ' ' (dropOne ',' rest) with
  | [] => return { days := number }
  | rest =>
    let clock ← readClock rest
    clock.add { days := number }

/-- Read a span of time. -/
def read (characters : List Char) : Option Duration := do
  let (negative, body) := Decimal.takeSign characters
  let counts ← match body with
    | 'P' :: rest =>
      if characters.length < 3 then none else readUnits (rest.length + 1) true false {} rest
    | _ =>
      if characters.length < 5 || body.any fun letter => letter.toLower = 'd' then readDays body
      else readClock body
  counts.toDuration? negative

/-! ## Numbers of seconds -/

/-- The span of a whole number of seconds, whose days are counted in a word of 32 bits. -/
def ofSeconds? (number : Int) : Option Duration :=
  let days := number.natAbs / Clock.daySeconds % (Counts.greatest + 1)
  let counts : Counts := { days, seconds := number.natAbs % Clock.daySeconds }
  counts.toDuration? (number < 0)

/-- Whether the days of a span are not too many for a value, which counts them downwards. -/
def isHeld (span : Duration) : Bool := span.days.natAbs ≤ Counts.mostDays

/-- The span of a floating-point number of seconds; its days and its seconds are cut off. -/
def ofFloat? (number : Decimal.Binary64) : Option Duration := do
  let exact ← number.toExact?
  let size := { exact with significand := exact.significand.natAbs }
  let (numerator, denominator) := size.ratio
  let days ← (Decimal.Binary64.ofRatio numerator (denominator * Clock.daySeconds)).toExact?
  let (seconds, rest) ← splitWhole size
  let counts : Counts :=
    ⟨days.truncate.toNat, seconds % Clock.daySeconds, ← millionthsOf rest⟩
  counts.toDuration? number.isNegative

end Duration

end SqlMapping.Calendar
