import SqlMapping.Calendar.Date

/-!
# Times of the day

A time of the day has hours, minutes, seconds and millionths of seconds, and possibly a zone,
which is the number of minutes that its clocks are ahead of universal time.  Seconds may be
left out where a time is read, and places beyond the sixth do not count.
-/

namespace SqlMapping.Calendar

/-- A time of the day with its zone, if it has one. -/
structure Clock where
  hour : Nat := 0
  minute : Nat := 0
  second : Nat := 0
  millionths : Nat := 0
  zone : Option Int := none
deriving DecidableEq

namespace Clock

/-- The zone of universal time. -/
def universal : Option Int := some 0

/-- Read the places of seconds as millionths. -/
def readPlaces (places : List Char) : Nat :=
  Decimal.digitsValue ((places ++ List.replicate 6 '0').take 6)

/-- The direction that the sign of a zone stands for. -/
def direction? (sign : Char) : Option Int :=
  if sign = '+' then some 1
  else if sign = '-' || sign.toNat = 0x2212 then some (-1)
  else none

/-- Read the hours and minutes of a zone, with or without a colon between them. -/
def readOffset (characters : List Char) : Option Nat := do
  let minutes :=
    match characters.drop 2 with
    | ':' :: rest => rest
    | rest => rest
  let hour ← fixedNumber 2 (characters.take 2)
  let minute ← fixedNumber 2 minutes
  if hour < 24 && minute < 60 then some (hour * 60 + minute) else none

/-- Read a zone, or the end of the text where there is none. -/
def readZone : List Char → Option (Option Int)
  | [] => some none
  | sign :: rest =>
    if sign = 'Z' || sign = 'z' then if rest.isEmpty then some universal else none
    else do
      let direction ← direction? sign
      let minutes ← readOffset rest
      return some (direction * minutes)

/-- Read the seconds of a time and what follows them. -/
def readSeconds (hour minute : Nat) (characters : List Char) : Option Clock := do
  let second ← fixedNumber 2 (characters.take 2)
  match characters.drop 2 with
  | mark :: rest =>
    if mark = '.' || mark = ',' then
      let places := rest.takeWhile Char.isDigit
      guard !places.isEmpty
      let zone ← readZone (rest.dropWhile Char.isDigit)
      return ⟨hour, minute, second, readPlaces places, zone⟩
    else
      let zone ← readZone (mark :: rest)
      return ⟨hour, minute, second, 0, zone⟩
  | [] => return ⟨hour, minute, second, 0, none⟩

/-- Read the numbers of a time, whether or not there is such a time of the day. -/
def readNumbers (characters : List Char) : Option Clock := do
  let hour ← fixedNumber 2 (characters.take 2)
  let minute ← fixedNumber 2 ((characters.drop 3).take 2)
  guard (characters[2]? = some ':')
  match characters.drop 5 with
  | ':' :: rest => readSeconds hour minute rest
  | rest =>
    let zone ← readZone rest
    return ⟨hour, minute, 0, 0, zone⟩

/-- Whether the numbers are those of a time of the day. -/
def isValid (clock : Clock) : Bool :=
  clock.hour < 24 && clock.minute < 60 && clock.second < 60

/-- Read a time of the day. -/
def read (characters : List Char) : Option Clock :=
  (readNumbers characters).filter isValid

/-- The wording for numbers that are no time of the day. -/
def fault? (clock : Clock) : Option String :=
  if clock.isValid then none
  else if 24 ≤ clock.hour then some "hour must be in 0..23"
  else if 60 ≤ clock.minute then some "minute must be in 0..59"
  else some "second must be in 0..59"

/-- The text of a zone. -/
def zoneText : Option Int → List Char
  | none => []
  | some minutes =>
    (if minutes < 0 then '-' else '+') :: Decimal.paddedDigits 2 (minutes.natAbs / 60)
      ++ ':' :: Decimal.paddedDigits 2 (minutes.natAbs % 60)

/-- The text of a time; millionths are written with all their places unless they are zero. -/
def text (clock : Clock) : List Char :=
  Decimal.paddedDigits 2 clock.hour
    ++ ':' :: Decimal.paddedDigits 2 clock.minute
    ++ ':' :: Decimal.paddedDigits 2 clock.second
    ++ (if clock.millionths = 0 then [] else '.' :: Decimal.paddedDigits 6 clock.millionths)
    ++ zoneText clock.zone

/-- The number of seconds of a day. -/
def daySeconds : Nat := 86400

/-- The number of millionths of a second. -/
def million : Nat := 1000000

/-- The number of seconds since midnight. -/
def seconds (clock : Clock) : Nat :=
  clock.hour * 3600 + clock.minute * 60 + clock.second

/-- The number of millionths of seconds since midnight, whatever the zone. -/
def localPosition (clock : Clock) : Int :=
  (clock.seconds * million + clock.millionths : Nat)

/-- The number of millionths of seconds since midnight in universal time. -/
def position (clock : Clock) : Int :=
  clock.localPosition - clock.zone.getD 0 * 60 * (million : Nat)

/-- The order of two times: in universal time if both have zones, and as written otherwise. -/
def order (left right : Clock) : Ordering :=
  if left.zone.isSome && right.zone.isSome then compare left.position right.position
  else compare left.localPosition right.localPosition

/-- Whether a time is the first moment of a day. -/
def isMidnight (clock : Clock) : Bool :=
  clock.seconds = 0 && clock.millionths = 0

/-- The time of a number of seconds since midnight, in universal time. -/
def ofSeconds (seconds millionths : Nat) : Clock :=
  ⟨seconds / 3600, seconds / 60 % 60, seconds % 60, millionths, universal⟩

end Clock

end SqlMapping.Calendar
