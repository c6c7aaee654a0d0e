import SqlMapping.Text.Pattern.Reader
import SqlMapping.Validation.Issue
import SqlMapping.Value.Comparison

/-!
# Limits of values

A limit restricts the values of a type: numbers and times by bounds, numbers by what they are a
multiple of, decimals by their digits, texts and sequences by their lengths, and texts by a
pattern.  What has been read is held against its limits in order, and the first that does not
hold is reported.

Each type has limits of its own.  Here are those.
-/

namespace SqlMapping

/-- A restriction on a value. -/
inductive Limit where
  | multipleOf (divisor : Value)
  | atMost (bound : Value)
  | lessThan (bound : Value)
  | atLeast (bound : Value)
  | greaterThan (bound : Value)
  | longest (length : Nat)
  | shortest (length : Nat)
  | matching (pattern : Text.Pattern)
  /-- The most digits, and the most of them after the point. -/
  | digitCount (total places : Option Nat)
  /-- A number, which may be an infinity or a mark just where that is allowed. -/
  | infinite (allowed : Bool)
  /-- A text, in place of which there may be a number just where that is allowed. -/
  | textual (numbers : Bool)

namespace Limit

/-- The order of two written dates, points in time or times of one kind. -/
def timeOrder? (kind : WrittenKind) (left right : String) : Option Ordering :=
  let byReading {α : Type} (read : List Char → Option α) (order : α → α → Ordering) :
      Option Ordering := do
    return order (← read left.toList) (← read right.toList)
  match kind with
  | .date => byReading Calendar.Date.read fun first second => compare first.number second.number
  | .datetime => byReading Calendar.Moment.readWritten Calendar.Moment.order
  | .time => byReading Calendar.Clock.read Calendar.Clock.order
  | .decimal | .uuid => none

/-- The order of a value and a bound of its type, unless one of them is no number. -/
def order? (value bound : Value) : Option Ordering :=
  match value, bound with
  | .duration left, .duration right => some (compare left.millionths right.millionths)
  | .written .decimal _, _ | _, .written .decimal _ => numberOrder?
  | .written kind left, .written otherKind right =>
    if kind = otherKind then timeOrder? kind left right else none
  | _, _ => numberOrder?
where
  numberOrder? : Option Ordering := do
    (← value.numberPosition?).order? (← bound.numberPosition?)

/--
Whether a value is within a bound.  What is no number is within all bounds of floating-point
numbers, and within none of decimals.
-/
def isWithin (accepts : Ordering → Bool) (value bound : Value) : Bool :=
  match order? value bound with
  | some order => accepts order
  | none => value.decimal?.isNone

/-- The number of the items of a value, if it has items. -/
def length? : Value → Option Nat
  | .text content => some content.length
  | .bytes content => some content.length
  | .list items => some items.length
  | .tuple items => some items.length
  | .object entries => some entries.length
  | _ => none

/-- The issue of a value that is too long or too short. -/
def lengthIssue (isLong : Bool) : Value → IssueKind
  | .text _ => if isLong then .textTooLong else .textTooShort
  | .bytes _ => if isLong then .bytesTooLong else .bytesTooShort
  | _ => if isLong then .tooLong else .tooShort

/-- The remainder of one integer by another, and what of the divisor is left, in size. -/
def remainder (value divisor : Int) : Nat × Nat :=
  let rest := (value.tmod divisor).natAbs
  (rest, ((rest : Int) - divisor).natAbs)

/--
Whether a number is a multiple.  Floating-point numbers may be off by a billionth part, all of
them are multiples of zero, and just zero is one of an infinity.
-/
def isMultiple (value divisor : Value) : Bool :=
  let isFloat :=
    match value with
    | .float _ => true
    | _ => false
  match value.number?, divisor.number? with
  | some number, none => number.significand = 0
  | some number, some step =>
    isFloat && step.significand = 0 ||
    let twos := min number.twos step.twos
    let tens := min number.tens step.tens
    let scaled := number.scaledTo twos tens
    let (rest, left) := remainder scaled (step.scaledTo twos tens)
    rest = 0 || isFloat
      && (rest * 1000000000 ≤ scaled.natAbs || left * 1000000000 ≤ scaled.natAbs)
  | _, _ => true

/-- The number of digits of a decimal, and of its digits after the point. -/
def digitCounts (number : Decimal.Numeral) : Nat × Nat :=
  let digits := Decimal.Exact.digitCount number.digits
  if 0 ≤ number.power then (digits + number.power.toNat, 0)
  else (max digits number.power.natAbs, number.power.natAbs)

/-- The counts of a decimal as it is and of what is left of it without zeros at its end. -/
def countsOf (number : Decimal.Numeral) : List (Nat × Nat) :=
  let normalized :=
    match number.normalized with
    | .ok other => other
    | .error _ => number
  [digitCounts number, digitCounts normalized]

/-- Whether a decimal has too many digits, both as it is and without zeros at its end. -/
def exceedsDigits (total : Nat) (number : Decimal.Numeral) : Bool :=
  (countsOf number).all fun counts => total < counts.1

/-- Whether a decimal has too many digits after the point, also without zeros at its end. -/
def exceedsPlaces (places : Nat) (number : Decimal.Numeral) : Bool :=
  (countsOf number).all fun counts => places < counts.2

/-- The issue of a decimal with too many digits. -/
def digitIssue? (total places : Option Nat) (number : Decimal.Numeral) : Option IssueKind :=
  if total.any fun total => exceedsDigits total number then some .decimalMaxDigits
  else if places.any fun places => exceedsPlaces places number then some .decimalMaxPlaces
  else
    match total, places with
    | some total, some places =>
      let isTooGreat := (countsOf number).all fun counts => total - places < counts.1 - counts.2
      if isTooGreat then some .decimalWholeDigits else none
    | _, _ => none

/-- The issue of a number that is no multiple. -/
def multipleIssue? (value divisor : Value) : Option IssueKind :=
  match value.decimal?, divisor.decimal? with
  | some number, some step =>
    match number.hasWholeQuotient step with
    | .ok true => none
    | .ok false => some .multipleOf
    | .error signal => some (.stop (.noResult signal))
  | _, _ => if isMultiple value divisor then none else some .multipleOf

/-- The issue of a value that does not keep a limit. -/
def issue? (limit : Limit) (value : Value) : Option IssueKind :=
  let demand (holds : Bool) (kind : IssueKind) : Option IssueKind :=
    if holds then none else some kind
  match limit with
  | .multipleOf divisor => multipleIssue? value divisor
  | .atMost bound => demand (isWithin (·.isLE) value bound) .lessThanEqual
  | .lessThan bound => demand (isWithin (·.isLT) value bound) .lessThan
  | .atLeast bound => demand (isWithin (·.isGE) value bound) .greaterThanEqual
  | .greaterThan bound => demand (isWithin (·.isGT) value bound) .greaterThan
  | .longest length => demand ((length? value).all (· ≤ length)) (lengthIssue true value)
  | .shortest length =>
    demand ((length? value).all (length ≤ ·)) (lengthIssue false value)
  | .matching pattern =>
    match value with
    | .text content => demand (pattern.occursIn content) .patternMismatch
    | _ => none
  | .digitCount total places =>
    match value.decimal? with
    | some (.finite number) => digitIssue? total places number
    | some _ => some .finiteNumber
    | none => none
  | .infinite false =>
    match value.numberPosition? with
    | some (.finite _) | none => none
    | some _ => some .finiteNumber
  | .infinite true | .textual _ => none

/-- A count that an option gives; truth values are zero and one. -/
def count? (entries : List (String × Value)) (key : String) : Option Nat :=
  match entries.lookup key with
  | some (.int value) => if 0 ≤ value then some value.toNat else none
  | some (.bool flag) => some (if flag then 1 else 0)
  | _ => none

/-- A bound that an option gives. -/
def bound? (entries : List (String × Value)) (key : String) : Option Value :=
  (entries.lookup key).filter fun value => !value.isNull

/-- The length that an option gives, or else one that counts the same under its older name. -/
def lengthOf? (entries : List (String × Value)) (key older : String) : Option Nat :=
  count? entries (if (bound? entries key).isSome then key else older)

/-- The limits that the options of a field give, in the order in which they are looked at. -/
def ofEntries (entries : List (String × Value)) : List Limit :=
  let total := count? entries "max_digits"
  let places := count? entries "decimal_places"
  let switched (key : String) (build : Bool → Limit) : List Limit :=
    ((bound? entries key).map fun value => build value.truthy).toList
  switched "allow_inf_nan" infinite
    ++ (if total.isSome || places.isSome then [Limit.digitCount total places] else [])
    ++ ((bound? entries "multiple_of").map multipleOf).toList
    ++ ((bound? entries "le").map atMost).toList
    ++ ((bound? entries "lt").map lessThan).toList
    ++ ((bound? entries "ge").map atLeast).toList
    ++ ((bound? entries "gt").map greaterThan).toList
    ++ ((lengthOf? entries "max_length" "max_items").map longest).toList
    ++ ((lengthOf? entries "min_length" "min_items").map shortest).toList
    ++ (((entries.lookup "pattern").bind Value.asText?).map fun pattern =>
      matching ((Text.Pattern.ofText pattern).toOption.getD .empty)).toList
    ++ switched "coerce_numbers_to_str" textual

/-- A limit whose bound is read by a function; a bound that cannot be read is kept. -/
def mapBound (read : Value → Checked Value) (limit : Limit) : Limit :=
  let convert (bound : Value) : Value :=
    match read bound with
    | .ok converted => converted
    | .error _ => bound
  match limit with
  | .multipleOf divisor => .multipleOf (convert divisor)
  | .atMost bound => .atMost (convert bound)
  | .lessThan bound => .lessThan (convert bound)
  | .atLeast bound => .atLeast (convert bound)
  | .greaterThan bound => .greaterThan (convert bound)
  | other => other

/-- Hold a value against limits of its type. -/
def check (limits : List Limit) (value : Value) : Checked Value :=
  match limits.findSome? fun limit => limit.issue? value with
  | some (IssueKind.stop cause) => Checked.stop cause
  | some kind => Checked.issue kind
  | none => .ok value

/-- Without limits every value is kept. -/
@[simp]
theorem check_nil (value : Value) : check [] value = .ok value := by
  simp [check]

end Limit

end SqlMapping
