import SqlMapping.Value.Literal

/-!
# Comparing values

Numbers are equal when their exact values are, whatever their kinds; truth values count as
zero and one.  Points in time with zones are equal when they are the same moment.  Other values
are equal when they have the same kind and equal contents, and mappings are compared without
regard to the order of their keys.  Numbers, texts, bytes, sequences, dates, points in time,
times and identifiers are ordered, each among themselves.
-/

namespace SqlMapping

/-! ## Positions of numbers and of times -/

/-- Where a number lies: below, among or above the finite numbers, or nowhere. -/
inductive NumberPosition where
  | below
  | finite (number : Decimal.Exact)
  | above
  | nowhere

namespace NumberPosition

/-- The position of an infinity. -/
def ofInfinity (negative : Bool) : NumberPosition := if negative then .below else .above

/-- The order of two positions, if both are somewhere. -/
def order? : NumberPosition → NumberPosition → Option Ordering
  | .nowhere, _ | _, .nowhere => none
  | .finite left, .finite right => some (left.order right)
  | .below, .below | .above, .above => some .eq
  | .below, _ | _, .above => some .lt
  | .above, _ | _, .below => some .gt

end NumberPosition

/-- Where a time or a point in time lies, and whether that is in universal time. -/
structure TimePosition where
  place : Int
  isUniversal : Bool

namespace Value

/-- The position of a number of any kind. -/
def numberPosition? (value : Value) : Option NumberPosition :=
  match value with
  | .float number =>
    if number.isNaN then some .nowhere
    else if number.isSpecial then some (.ofInfinity number.isNegative)
    else number.toExact?.map .finite
  | .written .decimal _ =>
    value.decimal?.map fun number =>
      match number with
      | .finite exact => .finite exact.toExact
      | .infinite negative => .ofInfinity negative
      | .missing _ _ _ => .nowhere
  | _ => value.number?.map .finite

/-- The position of a written date, point in time or time of the day. -/
def timePosition? (kind : WrittenKind) (content : String) : Option TimePosition :=
  let characters := content.toList
  match kind with
  | .date => (Calendar.Date.read characters).map fun date => ⟨date.number, false⟩
  | .datetime =>
    (Calendar.Moment.readWritten characters).map fun moment =>
      ⟨moment.position, moment.clock.zone.isSome⟩
  | .time =>
    (Calendar.Clock.read characters).map fun clock => ⟨clock.position, clock.zone.isSome⟩
  | .decimal | .uuid => none

/-! ## Equality -/

/-- Whether two values are numbers of the same exact value. -/
def sameNumber (left right : Value) : Bool :=
  match left.numberPosition?, right.numberPosition? with
  | some leftPlace, some rightPlace => leftPlace.order? rightPlace == some .eq
  | _, _ => false

/-- Whether two written values of one kind are equal. -/
def sameWritten (kind : WrittenKind) (left right : String) : Bool :=
  match timePosition? kind left, timePosition? kind right with
  | some leftPlace, some rightPlace =>
    leftPlace.place == rightPlace.place && leftPlace.isUniversal == rightPlace.isUniversal
  | _, _ => left == right

mutual

/-- Whether two values are equal. -/
def same : Value → Value → Bool
  | .null, .null => true
  | .text left, .text right => left == right
  | .bytes left, .bytes right => left == right
  | .written leftKind left, .written rightKind right =>
    leftKind == rightKind
      && (if leftKind = .decimal then
          sameNumber (.written leftKind left) (.written rightKind right)
        else sameWritten leftKind left right)
  | .duration left, .duration right => left == right
  | .member left, .member right => left == right
  | .type left, .type right => left == right
  | .list left, .list right => sameAll left right
  | .tuple left, .tuple right => sameAll left right
  | .object left, .object right => left.length == right.length && sameEntries left right
  | .lookupOption leftName leftType, .lookupOption rightName rightType =>
    leftName == rightName && same leftType rightType
  | .insertOption leftName left, .insertOption rightName right =>
    leftName == rightName && left.length == right.length && sameEntries left right
  | .record leftClass left, .record rightClass right =>
    leftClass == rightClass && left.length == right.length && sameEntries left right
  | left, right => sameNumber left right

/-- Whether two lists of values are equal item by item. -/
def sameAll : List Value → List Value → Bool
  | [], [] => true
  | left :: leftRest, right :: rightRest => same left right && sameAll leftRest rightRest
  | _, _ => false

/-- Whether each entry has an equal value under its key in another mapping. -/
def sameEntries : List (String × Value) → List (String × Value) → Bool
  | [], _ => true
  | (key, value) :: rest, entries =>
    (match entries.lookup key with
      | some other => same value other
      | none => false) && sameEntries rest entries

end

mutual

/-- Whether something can be kept under a value: what can change is no key. -/
def isKey : Value → Bool
  | .list _ | .object _ | .insertOption _ _ | .record _ _ => false
  | .tuple items => areKeys items
  | .lookupOption _ argumentType => argumentType.isKey
  | _ => true

/-- Whether something can be kept under each of some values. -/
def areKeys : List Value → Bool
  | [] => true
  | item :: rest => item.isKey && areKeys rest

end

/-! ## Order -/

/-- Why two values have no order. -/
inductive Unordered where
  /-- Values of these types have no order. -/
  | types (left right : String)
  /-- A point in time and a date. -/
  | dateAmongMoments
  /-- Times of which just one has a zone. -/
  | zones (times : String)
  /-- A decimal that is no number. -/
  | noNumber
deriving DecidableEq

/-- The wording of a missing order. -/
def Unordered.message : Unordered → String
  | .types left right =>
    "'>' not supported between instances of '" ++ left ++ "' and '" ++ right ++ "'"
  | .dateAmongMoments => "can't compare datetime.datetime to datetime.date"
  | .zones times => "can't compare offset-naive and offset-aware " ++ times
  | .noNumber => "[<class 'decimal.InvalidOperation'>]"

/-- Whether a value is a decimal that signals, which no number can be compared with. -/
def signals (value : Value) : Bool :=
  match value.decimal? with
  | some (.missing _ signals _) => signals
  | _ => false

/-- Whether two values are equal, if they can be compared at all. -/
def equal (left right : Value) : Except Unordered Bool :=
  let areNumbers := left.numberPosition?.isSome && right.numberPosition?.isSome
  if areNumbers && (left.signals || right.signals) then .error .noNumber
  else .ok (left.same right)

/-- The refusal to order values of their types. -/
def unorderedTypes (left right : Value) : Unordered :=
  .types left.typeName right.typeName

/-- Whether the first of two numbers is greater; what is no number is neither. -/
def numberExceeds (left right : Value) : Except Unordered Bool :=
  match left.numberPosition?, right.numberPosition? with
  | some leftPlace, some rightPlace =>
    match leftPlace.order? rightPlace with
    | some order => .ok (order == .gt)
    | none =>
      if left.decimal?.isSome || right.decimal?.isSome then .error .noNumber else .ok false
  | _, _ => .error (unorderedTypes left right)

/-- Whether the first of two written values is greater. -/
def writtenExceeds (leftKind rightKind : WrittenKind) (left right : String) :
    Except Unordered Bool :=
  let refused : Except Unordered Bool :=
    .error (unorderedTypes (.written leftKind left) (.written rightKind right))
  let byPlace (times : String) : Except Unordered Bool :=
    match timePosition? leftKind left, timePosition? rightKind right with
    | some leftPlace, some rightPlace =>
      if leftPlace.isUniversal = rightPlace.isUniversal then
        .ok (rightPlace.place < leftPlace.place)
      else .error (.zones times)
    | _, _ => refused
  match leftKind, rightKind with
  | .decimal, .decimal => numberExceeds (.written .decimal left) (.written .decimal right)
  | .date, .date => byPlace "dates"
  | .datetime, .datetime => byPlace "datetimes"
  | .time, .time => byPlace "times"
  | .uuid, .uuid => .ok (compare left right == .gt)
  | .date, .datetime | .datetime, .date => .error .dateAmongMoments
  | _, _ => refused

mutual

/-- Whether the first of two values is greater, if they have an order. -/
def exceeds : Value → Value → Except Unordered Bool
  | .text left, .text right => .ok (compare left right == .gt)
  | .bytes left, .bytes right => .ok (right < left)
  | .list left, .list right => firstExceeds left right
  | .tuple left, .tuple right => firstExceeds left right
  | .written leftKind left, .written rightKind right =>
    writtenExceeds leftKind rightKind left right
  | .duration left, .duration right => .ok (right.millionths < left.millionths)
  | left, right => numberExceeds left right

/-- Sequences are compared by the first items that differ, and then by their lengths. -/
def firstExceeds : List Value → List Value → Except Unordered Bool
  | [], _ => .ok false
  | _ :: _, [] => .ok true
  | left :: leftRest, right :: rightRest =>
    if same left right then firstExceeds leftRest rightRest else exceeds left right

end

end Value

end SqlMapping
