import SqlMapping.Validation.Limit

/-!
# Limits of other types

A field may have limits that its type knows nothing of, such as a length where every value is
allowed.  Limits are laid on a type one after the other, and from the first one that the type
knows nothing of they no longer belong to the type, whatever they are.  They are looked at after
the value has been read, one by one in an order of their own, and they ask more than the limits
that belong to a type: what is no number is within no bound.  A limit that has no meaning for
the value ends the reading.
-/

namespace SqlMapping

namespace TypeRef

/-- Whether a type has limits of numbers. -/
def isNumeric : TypeRef → Bool
  | .integer | .float | .decimal | .date | .datetime | .time | .duration => true
  | _ => false

/-- Whether a type has limits of length. -/
def hasLength : TypeRef → Bool
  | .text | .bytes | .list | .dictionary | .sequence _ | .mapping _ => true
  | _ => false

/-- Whether a limit belongs to a type. -/
def hasLimit : TypeRef → Limit → Bool
  | .optional inner, limit => inner.hasLimit limit
  | type, limit =>
    match limit with
    | .multipleOf _ | .atMost _ | .lessThan _ | .atLeast _ | .greaterThan _ => type.isNumeric
    | .longest _ | .shortest _ => type.hasLength
    | .matching _ | .textual _ => type = .text || type = .bytes
    | .digitCount _ _ => type = .decimal
    | .infinite _ => type = .integer || type = .float || type = .decimal

/-- The kind of a type by which limits name it. -/
def kindName : TypeRef → String
  | .optional inner => inner.kindName
  | .integer => "int"
  | .text => "str"
  | .float => "float"
  | .boolean => "bool"
  | .bytes => "bytes"
  | .decimal => "decimal"
  | .datetime => "datetime"
  | .date => "date"
  | .time => "time"
  | .uuid => "uuid"
  | .anything => "any"
  | .dictionary | .mapping _ => "dict"
  | .list => "list"
  | .duration => "timedelta"
  | .sequence _ => "json-or-python"
  | .entity _ _ => "model"
  | .foreign _ => "is-instance"

/-- Whether the values of a type are objects of a class. -/
def isClass : TypeRef → Bool
  | .optional inner => inner.isClass
  | .entity _ _ => true
  | _ => false

/-- Whether a type allows that there is no value. -/
def isOptional : TypeRef → Bool
  | .optional _ => true
  | _ => false

end TypeRef

namespace Limit

/-- The name of a limit. -/
def name : Limit → String
  | .multipleOf _ => "multiple_of"
  | .atMost _ => "le"
  | .lessThan _ => "lt"
  | .atLeast _ => "ge"
  | .greaterThan _ => "gt"
  | .longest _ => "max_length"
  | .shortest _ => "min_length"
  | .matching _ => "pattern"
  | .digitCount total _ => if total.isSome then "max_digits" else "decimal_places"
  | .infinite _ => "allow_inf_nan"
  | .textual _ => "coerce_numbers_to_str"

/-! ## Laying limits on a type -/

/-- The names of the limits that are laid on a type one after the other. -/
def singleNames : List String :=
  ["gt", "ge", "lt", "le", "multiple_of", "min_length", "max_length"]

/-- The names of the limits that are laid on a type together, after the others. -/
def jointNames : List String :=
  ["allow_inf_nan", "max_digits", "decimal_places", "pattern", "coerce_numbers_to_str"]

/-- The limits of some names, in the order of the names. -/
def named (limits : List Limit) (names : List String) : List Limit :=
  names.flatMap fun name => limits.filter fun limit => limit.name = name

/-- The kind of a type on which a limit of another type has been laid. -/
def limitedKind : String := "function-after"

/-- Limits as they are laid on a type. -/
structure Laid where
  /-- The limits that belong to the type. -/
  own : List Limit
  /-- The other limits, in the order in which they are looked at. -/
  foreign : List Limit
  /-- The kind of the type on which limits are laid together. -/
  typeKind : String
  /-- The name for the limits that are laid together, which is the last of theirs. -/
  jointName : String

/-- The last name of the limits that are laid together. -/
def jointNameOf (limits : List Limit) : String :=
  let hasPlaces := limits.any fun limit =>
    match limit with
    | .digitCount _ places => places.isSome
    | _ => false
  if hasPlaces then "decimal_places"
  else
    (["max_digits", "allow_inf_nan", "coerce_numbers_to_str", "pattern"].find? fun name =>
      limits.any fun limit => limit.name = name).getD ""

/-- Lay limits on a type. -/
def lay (type : TypeRef) (limits : List Limit) : Laid :=
  let single := named limits singleNames
  let joint := named limits jointNames
  let others := single.dropWhile type.hasLimit
  let belongs (limit : Limit) : Bool := others.isEmpty && type.hasLimit limit
  let ownNames :=
    (single.takeWhile type.hasLimit ++ joint.filter belongs).map name
  { own := limits.filter fun limit => ownNames.contains limit.name
    foreign := others ++ joint.filter fun limit => !belongs limit
    typeKind := if others.isEmpty then type.kindName else limitedKind
    jointName := jointNameOf limits }

/-! ## Holding values against limits -/

/-- The end of reading at a limit that has no meaning for a value. -/
def unusable (limit : Limit) (value : Value) (typeKind : Option String) : Checked Value :=
  Checked.stop (.unusableLimit ⟨limit.name, value.plain, typeKind⟩)

/-- Keep a value that is within a bound; the comparison may have no answer. -/
def withinBound (limit : Limit) (value : Value) (kind : IssueKind) :
    Except Value.Unordered Bool → Checked Value
  | .ok true => .ok value
  | .ok false => Checked.issue kind
  | .error _ => limit.unusable value none

/-- Whether the first of two values is greater or equal, if they have an order. -/
def reaches (left right : Value) : Except Value.Unordered Bool :=
  (left.exceeds right).map fun isGreater => isGreater || left.same right

/-- The decimal that a decimal, an integer or a truth value is. -/
def operand? (value : Value) : Option Decimal.Extended :=
  match value with
  | .int number => some (.finite ⟨number < 0, number.natAbs, 0⟩)
  | .bool flag => some (.finite ⟨false, if flag then 1 else 0, 0⟩)
  | _ => value.decimal?

/-- Whether a number leaves no remainder, if the two numbers can be divided at all. -/
def leavesNothing? (value divisor : Value) : Option (Except ReadingStop Bool) :=
  if value.decimal?.isSome || divisor.decimal?.isSome then do
    let number ← operand? value
    let step ← operand? divisor
    return (number.leavesNothing step).mapError .noResult
  else
    let isFloat : Value → Bool
      | .float _ => true
      | _ => false
    match value.numberPosition?, divisor.numberPosition? with
    | none, _ | _, none => none
    | some place, some (.finite step) =>
      if step.significand = 0 then some (.error (.zeroModulus (isFloat value || isFloat divisor)))
      else
        match place with
        | .finite number =>
          let twos := min number.twos step.twos
          let tens := min number.tens step.tens
          some (.ok ((number.scaledTo twos tens).tmod (step.scaledTo twos tens) == 0))
        | _ => some (.ok false)
    | some (.finite number), some .above | some (.finite number), some .below =>
      some (.ok (number.significand == 0))
    | some _, some _ => some (.ok false)

/-- Keep a value that leaves no remainder. -/
def withoutRemainder (limit : Limit) (divisor value : Value) : Checked Value :=
  match leavesNothing? value divisor with
  | some (.ok true) => .ok value
  | some (.ok false) => Checked.issue .multipleOf
  | some (.error cause) => Checked.stop cause
  | none => limit.unusable value none

/-- Keep a decimal that has not too many digits. -/
def withinDigits (limit : Limit) (total places : Option Nat) (value : Value) : Checked Value :=
  match value.decimal? with
  | some (.finite number) =>
    match total, number.normalized with
    | some _, .error signal => Checked.stop (.noResult signal)
    | _, _ =>
      if total.any fun total => exceedsDigits total number then Checked.issue .decimalMaxDigits
      else if places.any fun places => exceedsPlaces places number then
        Checked.issue .decimalMaxPlaces
      else .ok value
  | _ => limit.unusable value none

/-- Keep a value with an acceptable number of items. -/
def withinLength (limit : Limit) (value : Value) (accepts : Nat → Bool) (kind : IssueKind) :
    Checked Value :=
  match length? value with
  | some length => if accepts length then .ok value else Checked.issue kind
  | none => limit.unusable value none

/-- What a limit reads a value as where it asks for a text. -/
def asText (laid : Laid) (read : Value → Checked Value) (value : Value) : Checked Value :=
  match read value with
  | .ok content => .ok content
  | .error issues =>
    if issues.any fun issue => issue.kind = .stringType then
      Checked.stop (.unusableLimit ⟨laid.jointName, value.plain, some laid.typeKind⟩)
    else .error issues

/-- Keep a number that is neither an infinity nor a mark. -/
def withoutInfinity (value : Value) : Checked Value :=
  let demand (number : Decimal.Binary64) (refused : Checked Value) : Checked Value :=
    if number.isSpecial then refused else .ok value
  match value with
  | .bool _ => .ok value
  | .int number => demand (.ofInt number) (Checked.stop .tooGreat)
  | .float number => demand number (Checked.issue .finiteNumber)
  | _ =>
    match value.decimal? with
    | none => Checked.stop (.notReal value.typeName)
    | some number =>
      match number.toBinary64? with
      | some nearest => demand nearest (Checked.issue .finiteNumber)
      | none => Checked.issue .valueError

/-- How a text is read under a limit, with numbers in its place or as the style has it. -/
abbrev TextReader := (numbers : Option Bool) → List Limit → Value → Checked Value

/-- Hold a value against a limit that its type knows nothing of. -/
def hold (readText : TextReader) (laid : Laid) (limit : Limit) (value : Value) :
    Checked Value :=
  match limit with
  | .greaterThan bound => limit.withinBound value .greaterThan (value.exceeds bound)
  | .atLeast bound => limit.withinBound value .greaterThanEqual (reaches value bound)
  | .lessThan bound => limit.withinBound value .lessThan (bound.exceeds value)
  | .atMost bound => limit.withinBound value .lessThanEqual (reaches bound value)
  | .multipleOf divisor => limit.withoutRemainder divisor value
  | .shortest least => limit.withinLength value (least ≤ ·) .tooShort
  | .longest most => limit.withinLength value (· ≤ most) .tooLong
  | .digitCount total places => limit.withinDigits total places value
  | .infinite true => .ok value
  | .infinite false => withoutInfinity value
  | .matching pattern => asText laid (readText none [.matching pattern]) value
  | .textual numbers => asText laid (readText (some numbers) []) value

/-- Hold a value against limits that its type knows nothing of. -/
def holdAll (readText : TextReader) (laid : Laid) : List Limit → Value → Checked Value
  | [], value => .ok value
  | limit :: rest, value => (hold readText laid limit value).bind (holdAll readText laid rest)

/-- Without limits every value is kept. -/
@[simp]
theorem holdAll_nil (readText : TextReader) (laid : Laid) (value : Value) :
    holdAll readText laid [] value = .ok value := rfl

end Limit

end SqlMapping
