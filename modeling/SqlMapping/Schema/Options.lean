import SqlMapping.Backend.Registry
import SqlMapping.Declaration
import SqlMapping.Error

/-!
# Options

A grammar lists the keys that options may have and the shape of each value.  Collecting
options checks them in order: the key has to be known, it must not have occurred before, and
its value has to fit the shape.  The first violation is reported.

The main statement says that an acceptable option with a new key adds its value in front of
what the options after it give.
-/

namespace SqlMapping

/-- An explicit lookup option. -/
structure LookupOption where
  name : Option String := none
  argumentType : Value := .null

/-- An explicit insert option. -/
structure InsertOption where
  name : Option String := none
  config : List (String × Value) := []

/-- The shape of an option value. -/
inductive OptionShape where
  /-- A text that is not empty. -/
  | text
  /-- A truth value. -/
  | flag
  /-- A function name, or the truth value that stands for the default name. -/
  | functionName
  /-- A lookup: a function name, a description of it, or the default. -/
  | lookup
  /-- An insert model: its name, a description of it, or the default. -/
  | insertable
  /-- An entity class or its dotted path. -/
  | target
deriving DecidableEq

/-- An option value that fits its shape. -/
inductive OptionValue where
  | text (value : String)
  | flag (value : Bool)
  | functionName (name : Option String)
  | lookup (option : LookupOption)
  | insertable (option : InsertOption)
  | target (value : Value)

/-- Read the description of a lookup. -/
def LookupOption.ofEntries (entries : List (String × Value)) : Checked LookupOption := do
  let ((name, argumentType), ()) ←
    Checked.both
      (Checked.both
        (Checked.entry entries "name" (some none) Checked.text?)
        (Checked.entry entries "arg_type" (some .null) Checked.any))
      (Checked.knownOnly ["name", "arg_type"] entries)
  return ⟨name, argumentType⟩

/-- Read the description of an insert model. -/
def InsertOption.ofEntries (entries : List (String × Value)) : Checked InsertOption := do
  let ((name, config), ()) ←
    Checked.both
      (Checked.both
        (Checked.entry entries "name" (some none) Checked.text?)
        (Checked.entry entries "config" (some []) Checked.mapping))
      (Checked.knownOnly ["name", "config"] entries)
  return ⟨name, config⟩

namespace OptionShape

/-- A text that is not empty, if the value is one. -/
def nonEmptyText? : Value → Option String
  | .text value => if value.isEmpty then none else some value
  | _ => none

/-- Read a lookup option. -/
def readLookup : Value → Except Expectation LookupOption
  | .bool true => .ok {}
  | .lookupOption name argumentType => .ok ⟨name, argumentType⟩
  | .object entries =>
    match LookupOption.ofEntries entries with
    | .ok option => .ok option
    | .error _ => .error .lookupFields
  | value =>
    match nonEmptyText? value with
    | some name => .ok { name := some name }
    | none => .error .lookup

/-- Read an insert option. -/
def readInsertable : Value → Except Expectation InsertOption
  | .bool true => .ok {}
  | .insertOption name config => .ok ⟨name, config⟩
  | .object entries =>
    match InsertOption.ofEntries entries with
    | .ok option => .ok option
    | .error _ => .error .insertableFields
  | value =>
    match nonEmptyText? value with
    | some name => .ok { name := some name }
    | none => .error .insertable

/-- Read a value of a shape, or say what was expected. -/
def read (shape : OptionShape) (value : Value) : Except Expectation OptionValue :=
  match shape with
  | .text =>
    match nonEmptyText? value with
    | some content => .ok (.text content)
    | none => .error .nonEmptyText
  | .flag =>
    match value with
    | .bool isSet => .ok (.flag isSet)
    | _ => .error .flag
  | .functionName =>
    match value with
    | .bool true => .ok (.functionName none)
    | value =>
      match nonEmptyText? value with
      | some name => .ok (.functionName (some name))
      | none => .error .functionName
  | .lookup => (readLookup value).map .lookup
  | .insertable => (readInsertable value).map .insertable
  | .target =>
    match value with
    | .type reference =>
      if reference.path?.isSome then .ok (.target value) else .error .target
    | value =>
      match nonEmptyText? value with
      | some path => .ok (.target (.text path))
      | none => .error .target

end OptionShape

/-- The keys that options may have, each with the shape of its value. -/
abbrev OptionGrammar := List (String × OptionShape)

/-- Options whose values have been read, in order of declaration. -/
abbrev Options := List (String × OptionValue)

namespace OptionGrammar

/-- The options of a table. -/
def table : OptionGrammar :=
  [("table", .text), ("id", .text), ("insertable", .insertable), ("deletable", .flag),
    ("backend", .text)]

/-- The options of a field of a table. -/
def tableField : OptionGrammar :=
  [("column", .text), ("custom_type", .flag), ("default", .flag), ("set", .functionName),
    ("get_one", .lookup), ("get_optional", .lookup), ("get_many", .lookup),
    ("get_by_any", .lookup), ("by_ref", .flag)]

/-- The options of a patch. -/
def patch : OptionGrammar :=
  [("table_name", .text), ("table", .target), ("id", .text), ("backend", .text)]

/-- The options of a field of a patch. -/
def patchField : OptionGrammar :=
  [("column", .text), ("custom_type", .flag), ("by_ref", .flag)]

/-- The keys of a grammar, sorted. -/
def keys (grammar : OptionGrammar) : List String :=
  Registry.sortTexts (grammar.map Prod.fst)

/-- Read one option on its own. -/
def readOne (grammar : OptionGrammar) (location : String) (option : Attribute) :
    Except BuildError OptionValue :=
  match grammar.lookup option.key with
  | none => .error (.unknownAttribute option.key grammar.keys location)
  | some shape =>
    match shape.read option.value with
    | .ok value => .ok value
    | .error expected =>
      .error (.invalidAttribute option.key option.value expected location)

/--
Read options after those whose keys are in `seen`.  A repeated key is reported before its value
is looked at, an unknown key before that.
-/
def collectAfter (grammar : OptionGrammar) (location : String) :
    (seen : List String) → List Attribute → Except BuildError Options
  | _, [] => .ok []
  | seen, option :: rest =>
    if (grammar.lookup option.key).isNone then
      .error (.unknownAttribute option.key grammar.keys location)
    else if seen.contains option.key then
      .error (.duplicateAttribute option.key location)
    else do
      let value ← grammar.readOne location option
      let others ← grammar.collectAfter location (option.key :: seen) rest
      return (option.key, value) :: others

/-- Read the options of a declaration or of a field. -/
def collect (grammar : OptionGrammar) (location : String) (attributes : List Attribute) :
    Except BuildError Options :=
  grammar.collectAfter location [] attributes

end OptionGrammar

namespace Options

/-- Whether an option was given. -/
def has (options : Options) (key : String) : Bool :=
  (options.lookup key).isSome

/-- The text under a key. -/
def text? (options : Options) (key : String) : Option String :=
  match options.lookup key with
  | some (.text value) => some value
  | _ => none

/-- The truth value under a key, false when there is none. -/
def flag (options : Options) (key : String) : Bool :=
  match options.lookup key with
  | some (.flag value) => value
  | _ => false

/-- The function name under a key; the outer level tells whether the option was given. -/
def functionName? (options : Options) (key : String) : Option (Option String) :=
  match options.lookup key with
  | some (.functionName name) => some name
  | _ => none

/-- The lookup under a key. -/
def lookup? (options : Options) (key : String) : Option LookupOption :=
  match options.lookup key with
  | some (.lookup option) => some option
  | _ => none

/-- The insert option under a key. -/
def insertable? (options : Options) (key : String) : Option InsertOption :=
  match options.lookup key with
  | some (.insertable option) => some option
  | _ => none

/-- The entity or path under a key. -/
def target? (options : Options) (key : String) : Option Value :=
  match options.lookup key with
  | some (.target value) => some value
  | _ => none

end Options

namespace OptionGrammar

@[simp]
theorem collectAfter_nil (grammar : OptionGrammar) (location : String) (seen : List String) :
    grammar.collectAfter location seen [] = .ok [] := rfl

/-- An option that is known, new and well-shaped is read before those that follow it. -/
theorem collectAfter_cons_of_accepted
    {grammar : OptionGrammar}
    {location : String}
    {seen : List String}
    {option : Attribute}
    {rest : List Attribute}
    {value : OptionValue}
    (fresh : option.key ∉ seen)
    (accepted : grammar.readOne location option = .ok value) :
    grammar.collectAfter location seen (option :: rest) =
      (grammar.collectAfter location (option.key :: seen) rest).map
        ((option.key, value) :: ·) := by
  have known : ((grammar.lookup option.key).isNone) = false := by
    cases found : grammar.lookup option.key with
    | none => simp [readOne, found] at accepted
    | some shape => rfl
  rw [collectAfter]
  simp only [known, List.contains_iff_mem, fresh, accepted]
  cases grammar.collectAfter location (option.key :: seen) rest <;> rfl

end OptionGrammar

end SqlMapping
