import SqlMapping.Calendar.Duration
import SqlMapping.Decimal.Extended

/-!
# Values

Field values, option values and call arguments are dynamic: a declaration may carry any of
them before it is checked, and a database may return any of them.  `TypeRef` names the
declared type of a field; `Value` is the data itself.
-/

namespace SqlMapping

/-- A declared type. -/
inductive TypeRef where
  | integer
  | text
  | float
  | boolean
  | bytes
  | decimal
  | datetime
  | date
  | time
  | uuid
  | anything
  | dictionary
  | list
  | duration
  /-- The inner type or no value. -/
  | optional (inner : TypeRef)
  /-- A sequence whose items have the inner type. -/
  | sequence (inner : TypeRef)
  /-- A mapping from text to the inner type. -/
  | mapping (inner : TypeRef)
  /-- An entity class, by its identity and its dotted path. -/
  | entity (identity : Nat) (path : String)
  /-- Any other class, by its dotted path; nothing says how its values are read. -/
  | foreign (path : String)
deriving DecidableEq, Inhabited

/-- Kinds of values that are kept as their written text. -/
inductive WrittenKind where
  | decimal
  | datetime
  | date
  | time
  | uuid
deriving DecidableEq

/-- A value of a field, an option or an argument. -/
inductive Value where
  | null
  | bool (value : Bool)
  | int (value : Int)
  | float (value : Decimal.Binary64)
  | text (value : String)
  | bytes (value : List UInt8)
  /-- A decimal, a point in time or an identifier, by its canonical text. -/
  | written (kind : WrittenKind) (text : String)
  /-- A span of time. -/
  | duration (span : Calendar.Duration)
  /-- A type as a value. -/
  | type (reference : TypeRef)
  | list (items : List Value)
  | tuple (items : List Value)
  /-- A mapping from text, in order of insertion. -/
  | object (entries : List (String × Value))
  /-- The explicit form of a lookup option: function name and argument type. -/
  | lookupOption (name : Option String) (argumentType : Value)
  /-- The explicit form of an insert option: model name and configuration. -/
  | insertOption (name : Option String) (config : List (String × Value))
  /-- The class stored under a name, before it is looked up. -/
  | classNamed (name : String)
  /-- A member of a class, which a field that hides it has where data gives it no value. -/
  | member (name : String)
  /-- A decoded record: the name of its class and every field. -/
  | record (className : String) (fields : List (String × Value))
deriving Inhabited

namespace Value

/-- The decimal that a value is. -/
def decimal? : Value → Option Decimal.Extended
  | .written .decimal content => Decimal.Extended.read content.toList
  | _ => none

/-- Whether a decimal is zero, by its text. -/
def isZeroDecimal (content : String) : Bool :=
  match Decimal.Extended.read content.toList with
  | some (.finite number) => number.digits = 0
  | _ => false

/-- Whether a value counts as true where a condition is expected. -/
def truthy : Value → Bool
  | .null => false
  | .bool value => value
  | .int value => value != 0
  | .float value => !value.isZero
  | .text value => !value.isEmpty
  | .bytes value => !value.isEmpty
  | .list items => !items.isEmpty
  | .tuple items => !items.isEmpty
  | .object entries => !entries.isEmpty
  | .duration span => span.millionths != 0
  | .written .decimal content => !isZeroDecimal content
  | _ => true

/-- Whether the value is absent. -/
def isNull : Value → Bool
  | .null => true
  | _ => false

/-- The value of an optional text. -/
def ofText? : Option String → Value
  | some content => .text content
  | none => .null

/-- A list of texts as a value. -/
def ofTexts (texts : List String) : Value :=
  .list (texts.map .text)

/-- The text of a text value. -/
def asText? : Value → Option String
  | .text value => some value
  | _ => none

/-- The exact number that a truth value, an integer, a finite float or a decimal stands for. -/
def number? : Value → Option Decimal.Exact
  | .bool value => some (Decimal.Exact.ofInt (if value then 1 else 0))
  | .int value => some (Decimal.Exact.ofInt value)
  | .float value => value.toExact?
  | value => value.decimal?.bind Decimal.Extended.toExact?

end Value

end SqlMapping
