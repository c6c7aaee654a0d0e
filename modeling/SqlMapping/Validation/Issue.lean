import SqlMapping.Decimal.Bounded
import SqlMapping.Value

/-!
# Validation issues

Reading untyped data does not stop at the first fault: an issue is recorded for every part
that does not fit, with the place of the part inside the data.  It does stop where no data is at
fault: at a limit that has no meaning for its value, or at a default that cannot be made.
-/

namespace SqlMapping

/-- A limit that a value cannot be held against: its name and the text of the value. -/
structure UnusableLimit where
  limit : String
  value : String
  /-- The kind of the type whose values are held against a pattern. -/
  typeKind : Option String := none
deriving DecidableEq

/-- Why reading goes no further, though no data is at fault. -/
inductive ReadingStop where
  | unusableLimit (limit : UnusableLimit)
  /-- A limit asks for an operation on decimals that has no result. -/
  | noResult (signal : Decimal.Signal)
  /-- A limit asks for the remainder of a division by zero. -/
  | zeroModulus (isFloat : Bool)
  /-- A default is what calling a value gives, and the value cannot be called. -/
  | notCallable (typeName : String)
  /-- A default is what calling a type without arguments gives, and the type needs some. -/
  | noBlank (type : TypeRef)
  /-- A limit asks whether a value is finite, and the value is no number. -/
  | notReal (typeName : String)
  /-- A limit asks whether an integer is finite that is too great for that. -/
  | tooGreat
  /-- A span of time is no value: its days are too many. -/
  | excessDays (days : Int)
deriving DecidableEq

/-- What is wrong with a part of the data. -/
inductive IssueKind where
  | missing
  | extraForbidden
  | frozenInstance
  | frozenField
  | unknownAttribute
  | modelType
  | listType
  | dictType
  | stringType
  | stringUnicode
  | intType
  | intParsing
  | intParsingSize
  | intFromFloat
  | finiteNumber
  | floatType
  | floatParsing
  | boolType
  | boolParsing
  | bytesType
  | decimalType
  | decimalParsing
  | dateType
  /-- A date that no value can hold. -/
  | dateParsing
  /-- A text that is no date and no point in time either. -/
  | dateFromDatetimeParsing
  /-- A point in time that is not the first moment of a day. -/
  | dateInexact
  | datetimeType
  | datetimeParsing
  /-- A text that is no point in time and no date either. -/
  | datetimeFromDateParsing
  | timeType
  | timeParsing
  | uuidType
  | uuidParsing
  | durationType
  | durationParsing
  | sequenceOfText
  | notAnInstance
  | greaterThan
  | greaterThanEqual
  | lessThan
  | lessThanEqual
  | multipleOf
  | decimalMaxDigits
  | decimalMaxPlaces
  | decimalWholeDigits
  | textTooShort
  | textTooLong
  | patternMismatch
  | bytesTooShort
  | bytesTooLong
  | tooShort
  | tooLong
  /-- A value for which an operation has no result. -/
  | valueError
  | stop (cause : ReadingStop)
deriving DecidableEq

/-- The name of a kind of issue. -/
def IssueKind.text : IssueKind → String
  | .missing => "missing"
  | .extraForbidden => "extra_forbidden"
  | .frozenInstance => "frozen_instance"
  | .frozenField => "frozen_field"
  | .unknownAttribute => "no_such_attribute"
  | .modelType => "model_type"
  | .listType => "list_type"
  | .dictType => "dict_type"
  | .stringType => "string_type"
  | .stringUnicode => "string_unicode"
  | .intType => "int_type"
  | .intParsing => "int_parsing"
  | .intParsingSize => "int_parsing_size"
  | .intFromFloat => "int_from_float"
  | .finiteNumber => "finite_number"
  | .floatType => "float_type"
  | .floatParsing => "float_parsing"
  | .boolType => "bool_type"
  | .boolParsing => "bool_parsing"
  | .bytesType => "bytes_type"
  | .decimalType => "decimal_type"
  | .decimalParsing => "decimal_parsing"
  | .dateType => "date_type"
  | .dateParsing => "date_parsing"
  | .dateFromDatetimeParsing => "date_from_datetime_parsing"
  | .dateInexact => "date_from_datetime_inexact"
  | .datetimeType => "datetime_type"
  | .datetimeParsing => "datetime_parsing"
  | .datetimeFromDateParsing => "datetime_from_date_parsing"
  | .timeType => "time_type"
  | .timeParsing => "time_parsing"
  | .uuidType => "uuid_type"
  | .uuidParsing => "uuid_parsing"
  | .durationType => "time_delta_type"
  | .durationParsing => "time_delta_parsing"
  | .sequenceOfText => "sequence_str"
  | .notAnInstance => "is_instance_of"
  | .greaterThan => "greater_than"
  | .greaterThanEqual => "greater_than_equal"
  | .lessThan => "less_than"
  | .lessThanEqual => "less_than_equal"
  | .multipleOf => "multiple_of"
  | .decimalMaxDigits => "decimal_max_digits"
  | .decimalMaxPlaces => "decimal_max_places"
  | .decimalWholeDigits => "decimal_whole_digits"
  | .textTooShort => "string_too_short"
  | .textTooLong => "string_too_long"
  | .patternMismatch => "string_pattern_mismatch"
  | .bytesTooShort => "bytes_too_short"
  | .bytesTooLong => "bytes_too_long"
  | .tooShort => "too_short"
  | .tooLong => "too_long"
  | .valueError => "value_error"
  | .stop _ => "stop"

/-- An issue and the path of keys and positions that leads to it. -/
structure Issue where
  location : List String
  kind : IssueKind
  /-- Whether the issue ends the reading; it is the only one then that counts. -/
  isFinal : Bool := false
deriving DecidableEq

/-- The issues with which reading ended, if it did not go to the end of the data. -/
def Issue.final (issues : List Issue) : List Issue :=
  issues.dropWhile fun issue => !issue.isFinal

/-- Data that has been read, or every issue found in it. -/
abbrev Checked (α : Type) := Except (List Issue) α

namespace Checked

/-- A single issue at the place that is being read. -/
def issue {α : Type} (kind : IssueKind) : Checked α :=
  .error [{ location := [], kind }]

/-- The end of reading. -/
def stop {α : Type} (cause : ReadingStop) : Checked α :=
  .error [⟨[], .stop cause, true⟩]

/-- Let the issues of a part end the reading. -/
def final {α : Type} : Checked α → Checked α
  | .ok value => .ok value
  | .error issues => .error (issues.map fun issue => { issue with isFinal := true })

/-- Place the issues of a part under its key or position; an issue that is final stays. -/
def within {α : Type} (step : String) : Checked α → Checked α
  | .ok value => .ok value
  | .error issues =>
    .error (issues.map fun issue =>
      if issue.isFinal then issue else { issue with location := step :: issue.location })

/-- Issues of a part and of one after it, which does not count once reading has ended. -/
def followed (issues others : List Issue) : List Issue :=
  if issues.any Issue.isFinal then issues else issues ++ others

/-- Read two parts; the issues of both count. -/
def both {α β : Type} : Checked α → Checked β → Checked (α × β)
  | .ok first, .ok second => .ok (first, second)
  | .ok _, .error issues => .error issues
  | .error issues, .ok _ => .error issues
  | .error issues, .error others => .error (followed issues others)

/-- Read all parts; the issues of all count. -/
def all {α : Type} : List (Checked α) → Checked (List α)
  | [] => .ok []
  | first :: rest => (both first (all rest)).map fun (value, values) => value :: values

/-- Read the items of a list, each under its position from `position` on. -/
def items {α : Type} (read : Value → Checked α) : (position : Nat) → List Value → Checked (List α)
  | _, [] => .ok []
  | position, item :: rest =>
    (both (within (toString position) (read item)) (items read (position + 1) rest)).map
      fun (value, values) => value :: values

/-- Read the entry under a key, or take the fallback when there is none. -/
def entry
    {α : Type}
    (entries : List (String × Value))
    (key : String)
    (fallback : Option α)
    (read : Value → Checked α) :
    Checked α :=
  within key <|
    match entries.lookup key with
    | some value => read value
    | none =>
      match fallback with
      | some value => .ok value
      | none => issue .missing

/-- Refuse every entry whose key is not known. -/
def knownOnly (known : List String) (entries : List (String × Value)) : Checked Unit :=
  let unknown := entries.filter fun entry => !known.contains entry.1
  if unknown.isEmpty then .ok ()
  else
    .error (unknown.map fun entry => { location := [entry.1], kind := .extraForbidden })

/-- The entries of a mapping that a record is read from. -/
def recordEntries : Value → Checked (List (String × Value))
  | .object entries => .ok entries
  | _ => issue .modelType

/-- A text, or bytes that encode one. -/
def text : Value → Checked String
  | .text content => .ok content
  | .bytes content =>
    match String.fromUTF8? ⟨content.toArray⟩ with
    | some content => .ok content
    | none => issue .stringUnicode
  | _ => issue .stringType

/-- A text or nothing. -/
def text? : Value → Checked (Option String)
  | .null => .ok none
  | value => (text value).map some

/-- A mapping from text, as it is. -/
def mapping : Value → Checked (List (String × Value))
  | .object entries => .ok entries
  | _ => issue .dictType

/-- The items of a list or tuple, each read in turn. -/
def list {α : Type} (read : Value → Checked α) : Value → Checked (List α)
  | .list values => items read 0 values
  | .tuple values => items read 0 values
  | _ => issue .listType

/-- Any value. -/
def any (value : Value) : Checked Value := .ok value

end Checked

end SqlMapping
