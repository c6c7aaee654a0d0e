import SqlMapping.Calendar.Moment
import SqlMapping.Text.Quoted
import SqlMapping.Value

/-!
# Canonical texts of written values

Decimals, dates, points in time, times of the day and identifiers are held by their canonical
texts.  Another text of the same value is read and written canonically; a text of no value is
refused.
-/

namespace SqlMapping

/-- A text that stands for no value of a kind. -/
structure WrittenFault where
  kind : WrittenKind
  text : String
deriving DecidableEq

namespace WrittenFault

/-- The wording for numbers that are no point in time. -/
def momentFault? (characters : List Char) : Option String := do
  let date ← Calendar.Date.readNumbers (characters.take 10)
  match characters.drop 10 with
  | [] => date.fault?
  | _ :: rest =>
    let clock ← Calendar.Clock.readNumbers rest
    date.fault?.or clock.fault?

/-- The wording for numbers that are none of a kind, where the text has its form. -/
def numbersFault? (kind : WrittenKind) (characters : List Char) : Option String :=
  match kind with
  | .date => (Calendar.Date.readNumbers characters).bind Calendar.Date.fault?
  | .time => (Calendar.Clock.readNumbers characters).bind Calendar.Clock.fault?
  | .datetime => momentFault? characters
  | .decimal | .uuid => none

/-- The wording for a text that stands for no value. -/
def message (fault : WrittenFault) : String :=
  match fault.kind with
  | .decimal => "[<class 'decimal.ConversionSyntax'>]"
  | .uuid => "badly formed hexadecimal UUID string"
  | .date | .datetime | .time =>
    (numbersFault? fault.kind fault.text.toList).getD
      ("Invalid isoformat string: " ++ Text.quoteText fault.text)

end WrittenFault

namespace WrittenKind

/-- Drop a word from a text wherever it occurs. -/
def without (word : String) (text : String) : String :=
  String.join (text.splitOn word)

/-- The canonical text of an identifier: its 32 digits in groups. -/
def canonicalIdentifier? (text : String) : Option (List Char) :=
  let bare := (without "uuid:" (without "urn:" text)).toList
  let inner := (bare.dropWhile fun mark => mark = '\x7b' || mark = '\x7d').reverse.dropWhile
    fun mark => mark = '\x7b' || mark = '\x7d'
  let digits := (inner.reverse.filter (· ≠ '-')).map Char.toLower
  if digits.length = 32 && digits.all fun digit =>
      digit.isDigit || ('a' ≤ digit && digit ≤ 'f') then
    some (digits.take 8 ++ '-' :: (digits.drop 8).take 4 ++ '-' :: (digits.drop 12).take 4
      ++ '-' :: (digits.drop 16).take 4 ++ '-' :: digits.drop 20)
  else none

/-- The point in time that a text stands for; a date alone stands for its first moment. -/
def momentOf? (characters : List Char) : Option Calendar.Moment :=
  match characters.drop 10 with
  | [] => (Calendar.Date.readHeld characters).map fun date => ⟨date, {}⟩
  | _ :: rest => do
    let date ← Calendar.Date.readHeld (characters.take 10)
    let clock ← Calendar.Clock.read rest
    return ⟨date, clock⟩

/-- The canonical text of a value of a kind. -/
def canonical? (kind : WrittenKind) (text : String) : Option String :=
  let characters := text.toList
  match kind with
  | .decimal => (Decimal.Extended.read characters).map Decimal.Extended.text
  | .uuid => (canonicalIdentifier? text).map String.ofList
  | .date => (Calendar.Date.readHeld characters).map fun date => String.ofList date.text
  | .time => (Calendar.Clock.read characters).map fun clock => String.ofList clock.text
  | .datetime => (momentOf? characters).map fun moment => String.ofList moment.text

end WrittenKind

/-- The value of a kind that a text stands for. -/
def Value.ofWritten (kind : WrittenKind) (text : String) : Except WrittenFault Value :=
  match kind.canonical? text with
  | some canonical => .ok (.written kind canonical)
  | none => .error ⟨kind, text⟩

end SqlMapping
