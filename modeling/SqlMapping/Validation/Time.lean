import SqlMapping.Calendar.Moment
import SqlMapping.Validation.Number

/-!
# Reading dates and times

Dates, points in time, times of the day and spans of time are read from their texts and from
numbers of seconds, and dates and points in time also from each other.  A point in time is a date
if it is the first moment of a day; a date is a point in time that is its first moment.  A strict
reading takes values of the right kind only.

What has been read may lie in the year 0.  It is held against the limits of its field like any
other value, and refused after that.
-/

namespace SqlMapping

namespace Reading

open Calendar

/-- A date as a value. -/
def ofDate (date : Date) : Value := .written .date (String.ofList date.text)

/-- A point in time as a value. -/
def ofMoment (moment : Moment) : Value := .written .datetime (String.ofList moment.text)

/-- A time of the day as a value. -/
def ofClock (clock : Clock) : Value := .written .time (String.ofList clock.text)

/-! ## Numbers of seconds -/

/-- A number of seconds. -/
inductive Seconds where
  | whole (number : Int)
  | float (number : Decimal.Binary64)

/-- The number of seconds that a value is; integers too great for a word are rounded. -/
def seconds? (value : Value) : Option Seconds :=
  match value with
  | .int number =>
    let nearest := Decimal.Binary64.ofInt number
    if isWord number then some (.whole number)
    else if nearest.isSpecial then none
    else some (.float nearest)
  | .float number => some (.float number)
  | _ => (value.decimal?.bind Decimal.Extended.toBinary64?).map .float

/-- Read a number of seconds; a power of ten needs a point in front of it. -/
def writtenSeconds (characters : List Char) : Option Seconds :=
  let (negative, unsigned) := Decimal.takeSign characters
  let digits := unsigned.takeWhile Char.isDigit
  match unsigned.dropWhile Char.isDigit with
  | [] =>
    let size : Int := Decimal.digitsValue digits
    if digits.isEmpty || !fitsWord size then none
    else some (.whole (if negative then -size else size))
  | '.' :: _ => (Decimal.Numeral.read characters).map fun number => .float number.toBinary64
  | _ => none

/-- The point in time of a number of seconds. -/
def Seconds.moment? : Seconds → Option Moment
  | .whole number => (Moment.Timestamp.ofInt number).moment?
  | .float number => (Moment.Timestamp.ofFloat? number).bind Moment.Timestamp.moment?

/-! ## Points in time -/

/-- Read a text as a point in time. -/
def momentOfText? (characters : List Char) : Option Moment :=
  match Moment.readWritten characters with
  | some moment => some moment
  | none => (writtenSeconds characters).bind Seconds.moment?

/-- Read a point in time, which has no zone where its text has none. -/
def moment (value : Value) : Checked Moment :=
  match value, written? value, seconds? value with
  | .written .datetime content, _, _ =>
    ((Moment.readWritten content.toList).map .ok).getD (Checked.issue .datetimeType)
  | _, some text, _ =>
    ((text.bind momentOfText?).map .ok).getD (Checked.issue .datetimeParsing)
  | _, none, some number =>
    (number.moment?.map .ok).getD (Checked.issue .datetimeParsing)
  | _, none, none => Checked.issue .datetimeType

/-- The date that a value is or that its text writes. -/
def plainDate? (value : Value) : Option Date :=
  match value, written? value with
  | .written .date content, _ => Date.read content.toList
  | _, some (some characters) => Date.read characters
  | _, _ => none

/-- Replace one kind of issue by another. -/
def recast {α : Type} (kind other : IssueKind) : Checked α → Checked α
  | .ok value => .ok value
  | .error issues =>
    .error (issues.map fun issue => if issue.kind = kind then { issue with kind := other }
      else issue)

/-- Read a point in time; a date stands for its first moment. -/
def datetime (strict : Bool) (value : Value) : Checked Value :=
  match value with
  | .written .datetime _ => .ok value
  | _ =>
    if strict then Checked.issue .datetimeType
    else
      match moment value, plainDate? value with
      | .ok found, _ => .ok (ofMoment found)
      | .error _, some date => .ok (ofMoment { date })
      | .error issues, none =>
        if (written? value).isSome then Checked.issue .datetimeFromDateParsing
        else .error issues

/-- Read a date; a point in time has to be the first moment of a day. -/
def date (strict : Bool) (value : Value) : Checked Value :=
  match value with
  | .written .date _ => .ok value
  | _ =>
    if strict then Checked.issue .dateType
    else
      match plainDate? value, moment value with
      | some date, _ => .ok (ofDate date)
      | none, .ok found =>
        if found.clock.isMidnight then .ok (ofDate found.date) else Checked.issue .dateInexact
      | none, .error issues =>
        recast .datetimeParsing .dateFromDatetimeParsing
          (recast .datetimeType .dateType (.error issues))

/-- Refuse what no value can hold, because it lies in the year 0. -/
def held (value : Value) : Checked Value :=
  match value with
  | .written .date content =>
    if (Date.readHeld content.toList).isSome then .ok value else Checked.issue .dateParsing
  | .written .datetime content =>
    if (Date.readHeld (content.toList.take 10)).isSome then .ok value
    else Checked.issue .datetimeParsing
  | _ => .ok value

/-! ## Times of the day -/

/-- The time of a number of seconds since midnight. -/
def Seconds.clock? (number : Seconds) : Option Clock := do
  let timestamp ← match number with
    | .whole number => some ⟨number, 0⟩
    | .float number => number.toExact?.bind Moment.Timestamp.ofSeconds?
  guard (0 ≤ timestamp.seconds && timestamp.seconds < (Clock.daySeconds : Nat))
  return .ofSeconds timestamp.seconds.toNat timestamp.millionths

/-- Read a time of the day. -/
def time (strict : Bool) (value : Value) : Checked Value :=
  match value with
  | .written .time _ => .ok value
  | _ =>
    if strict then Checked.issue .timeType
    else
      match written? value, seconds? value with
      | some text, _ => orIssue .timeParsing ofClock (text.bind Clock.read)
      | none, some number => orIssue .timeParsing ofClock number.clock?
      | none, none => Checked.issue .timeType

/-! ## Spans of time -/

/-- The span of a number of seconds. -/
def Seconds.duration? : Seconds → Option Duration
  | .whole number => Duration.ofSeconds? number
  | .float number => Duration.ofFloat? number

/-- The number of seconds that a value is, where truth values count as zero and one. -/
def countedSeconds? : Value → Option Seconds
  | .bool flag => some (.whole (if flag then 1 else 0))
  | value => seconds? value

/-- Read a span of time. -/
def duration (strict : Bool) (value : Value) : Checked Value :=
  match value with
  | .duration _ => .ok value
  | _ =>
    if strict then Checked.issue .durationType
    else
      match written? value, countedSeconds? value with
      | some text, _ => orIssue .durationParsing .duration (text.bind Duration.read)
      | none, some number => orIssue .durationParsing .duration number.duration?
      | none, none => Checked.issue .durationType

/-- Give up on a span of time that no value can hold, because it has too many days. -/
def heldSpan (value : Value) : Checked Value :=
  match value with
  | .duration span => if span.isHeld then .ok value else Checked.stop (.excessDays span.days)
  | _ => .ok value

end Reading

end SqlMapping
