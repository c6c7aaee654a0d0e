import SqlMapping.Decimal.Numeral
import SqlMapping.Decimal.Shortest

/-!
# Dates

A date is a day of the calendar in the years 0 to 9999.  It is written as year, month and day
between hyphens.  Days are numbered from the first day of 1970 on, on which points in time are
compared and found by their distance.  The year 0 can be read and compared, but no value can hold
a day of it.
-/

namespace SqlMapping.Calendar

/-- Whether a year has a leap day. -/
def isLeapYear (year : Nat) : Bool :=
  year % 4 = 0 && (year % 100 ≠ 0 || year % 400 = 0)

/-- The number of days of a month. -/
def daysInMonth (year month : Nat) : Nat :=
  if month = 2 then if isLeapYear year then 29 else 28
  else if [4, 6, 9, 11].contains month then 30
  else 31

/-- Read a number of exactly so many digits. -/
def fixedNumber (width : Nat) (characters : List Char) : Option Nat :=
  if characters.length = width && characters.all Char.isDigit then
    some (Decimal.digitsValue characters)
  else none

/-- A year, a month and a day. -/
structure Date where
  year : Nat
  month : Nat
  day : Nat
deriving DecidableEq

namespace Date

/-- Whether the numbers name a day of the calendar. -/
def isValid (date : Date) : Bool :=
  date.year ≤ 9999 && 1 ≤ date.month && date.month ≤ 12
    && 1 ≤ date.day && date.day ≤ daysInMonth date.year date.month

/-- Whether a value can hold the date, which excludes the year 0. -/
def isHeld (date : Date) : Bool := 1 ≤ date.year

/-- Read the numbers of a date, whether or not they name a day of the calendar. -/
def readNumbers (characters : List Char) : Option Date := do
  let year ← fixedNumber 4 (characters.take 4)
  let month ← fixedNumber 2 ((characters.drop 5).take 2)
  let day ← fixedNumber 2 (characters.drop 8)
  if characters[4]? = some '-' && characters[7]? = some '-' then some ⟨year, month, day⟩
  else none

/-- Read a date and nothing else. -/
def read (characters : List Char) : Option Date :=
  (readNumbers characters).filter isValid

/-- Read a date that a value can hold. -/
def readHeld (characters : List Char) : Option Date :=
  (read characters).filter isHeld

/-- The wording for numbers that name no day that a value can hold. -/
def fault? (date : Date) : Option String :=
  if date.isValid && date.isHeld then none
  else if date.year = 0 then some "year 0 is out of range"
  else if date.month = 0 || 12 < date.month then some "month must be in 1..12"
  else some "day is out of range for month"

/-- The text of a date. -/
def text (date : Date) : List Char :=
  Decimal.paddedDigits 4 date.year
    ++ '-' :: Decimal.paddedDigits 2 date.month
    ++ '-' :: Decimal.paddedDigits 2 date.day

/-- The number of days before a year, from the first day of the year 0 on. -/
def daysBeforeYear (year : Nat) : Nat :=
  365 * year + (year + 3) / 4 - (year + 99) / 100 + (year + 399) / 400

/-- The number of days before a month of a year. -/
def daysBeforeMonth (year : Nat) : (month : Nat) → Nat
  | 0 => 0
  | month + 1 => if month = 0 then 0 else daysBeforeMonth year month + daysInMonth year month

/-- The number of days from the first day of the year 0 to the first day of 1970. -/
def epoch : Nat := daysBeforeYear 1970

/-- The number of a day, which is zero for the first day of 1970. -/
def number (date : Date) : Int :=
  (daysBeforeYear date.year + daysBeforeMonth date.year date.month + date.day : Nat) - 1
    - (epoch : Nat)

/-- The month and day of a day of a year, counted from `month` on. -/
def ofDayOfYear (year : Nat) : (fuel month day : Nat) → Date
  | 0, month, day => ⟨year, month, day + 1⟩
  | fuel + 1, month, day =>
    let days := daysInMonth year month
    if day < days then ⟨year, month, day + 1⟩
    else ofDayOfYear year fuel (month + 1) (day - days)

/-- The year that so many whole days after the first day of the year 0 lie in. -/
def yearOfDays (days : Nat) : Nat :=
  let estimate := days * 400 / 146097
  if days < daysBeforeYear estimate then estimate - 1
  else if daysBeforeYear (estimate + 1) ≤ days then estimate + 1
  else estimate

/-- The day of a number. -/
def ofNumber? (number : Int) : Option Date :=
  let days := number + (epoch : Nat)
  if days < 0 then none
  else
    let year := yearOfDays days.toNat
    let date := ofDayOfYear year 12 1 (days.toNat - daysBeforeYear year)
    if date.isValid then some date else none

end Date

end SqlMapping.Calendar
