import SqlMapping.Text.Case
import SqlMapping.Text.Integer
import SqlMapping.Text.Quoted

/-!
# Settings

The settings consulted while declarations are compiled and while rows are streamed.  They are
a value: a compiled table never observes a later change.  Out-of-range settings cannot be
made, and a change that is refused leaves the settings as they were.
-/

namespace SqlMapping

/-- Why settings are refused. -/
inductive SettingsError where
  | negativeBranchLimit
  | emptyBatch
  /-- A number setting whose text is not read as an integer. -/
  | notAnInteger (text : String) (fault : Text.IntegerFault)
  /-- A file names a variable that no environment can have. -/
  | illegalName (hasNull : Bool)

/-- The wording for a literal that is not read as an integer; long literals are cut. -/
def SettingsError.integerMessage (literal : String) : Text.IntegerFault → String
  | .malformed =>
    "invalid literal for int() with base 10: " ++ String.ofList (literal.toList.take 200)
  | .tooLong digits =>
    "Exceeds the limit (" ++ toString Text.digitLimit
      ++ " digits) for integer string conversion: value has " ++ toString digits
      ++ " digits; use sys.set_int_max_str_digits() to increase the limit"

/-- The wording of a refusal. -/
def SettingsError.message : SettingsError → String
  | .negativeBranchLimit => "max_branch_points must be >= 0"
  | .emptyBatch => "stream_batch_size must be >= 1"
  | .notAnInteger text fault => integerMessage (Text.quoteText text) fault
  | .illegalName hasNull =>
    if hasNull then "embedded null byte" else "illegal environment variable name"

/-- The four settings. -/
structure Settings where
  /-- The backend of declarations that name none. -/
  defaultBackend : String := "postgres"
  /-- The most branch points that a conditional query may have. -/
  maxBranchPoints : Int := 5
  /-- The number of rows that a stream fetches at once. -/
  streamBatchSize : Int := 100
  /-- Whether reserved names are warned about. -/
  warnReserved : Bool := true
deriving DecidableEq, Inhabited

/-- Values that replace single settings. -/
structure SettingsChange where
  defaultBackend : Option String := none
  maxBranchPoints : Option Int := none
  streamBatchSize : Option Int := none
  warnReserved : Option Bool := none

namespace Settings

/-- Refuse settings that are out of range; the branch limit is looked at first. -/
def check (settings : Settings) : Except SettingsError Settings :=
  if settings.maxBranchPoints < 0 then .error .negativeBranchLimit
  else if settings.streamBatchSize < 1 then .error .emptyBatch
  else .ok settings

/-- Replace some settings, and refuse the result if it is out of range. -/
def change (settings : Settings) (replacement : SettingsChange) :
    Except SettingsError Settings :=
  check
    { defaultBackend := replacement.defaultBackend.getD settings.defaultBackend
      maxBranchPoints := replacement.maxBranchPoints.getD settings.maxBranchPoints
      streamBatchSize := replacement.streamBatchSize.getD settings.streamBatchSize
      warnReserved := replacement.warnReserved.getD settings.warnReserved }

/-- Settings pass the check exactly when both numbers are in range. -/
theorem check_eq_ok_iff {settings checked : Settings} :
    settings.check = .ok checked ↔
      checked = settings ∧ 0 ≤ settings.maxBranchPoints ∧ 1 ≤ settings.streamBatchSize := by
  unfold check
  split
  · rename_i negative
    exact ⟨fun refused => (by cases refused), fun ⟨_, limit, _⟩ => absurd negative (by omega)⟩
  · rename_i limit
    split
    · rename_i empty
      exact ⟨fun refused => (by cases refused), fun ⟨_, _, size⟩ => absurd empty (by omega)⟩
    · rename_i size
      exact
        ⟨fun accepted => (by cases accepted; exact ⟨rfl, by omega, by omega⟩),
          fun ⟨equality, _⟩ => by rw [equality]⟩

/-- The words that switch a setting off. -/
def offWords : List String := ["0", "false", "no", "off"]

/-- A setting is on unless its trimmed text is one of the words for off, in any letter case. -/
def readSwitch (text : String) : Bool :=
  !offWords.contains (Text.lower (Text.trim text))

/-- Read a number setting, or keep the default when its variable is absent. -/
def readNumber (fallback : Int) : Option String → Except SettingsError Int
  | none => .ok fallback
  | some text => (Text.readInteger text).mapError (.notAnInteger text)

/--
Build settings from the variables whose names begin with `label`; absent variables keep the
defaults.
-/
def ofEnvironment (label : String) (environment : List (String × String)) :
    Except SettingsError Settings := do
  let defaults : Settings := {}
  let maxBranchPoints ←
    readNumber defaults.maxBranchPoints (environment.lookup (label ++ "_MAX_BRANCH_POINTS"))
  let streamBatchSize ←
    readNumber defaults.streamBatchSize (environment.lookup (label ++ "_STREAM_BATCH_SIZE"))
  check
    { defaultBackend :=
        (environment.lookup (label ++ "_BACKEND")).getD defaults.defaultBackend
      maxBranchPoints := maxBranchPoints
      streamBatchSize := streamBatchSize
      warnReserved :=
        ((environment.lookup (label ++ "_WARN_RESERVED")).map readSwitch).getD
          defaults.warnReserved }

end Settings

end SqlMapping
