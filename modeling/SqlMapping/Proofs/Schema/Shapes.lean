import Mathlib.Tactic.SplitIfs
import SqlMapping.Proofs.Outcome
import SqlMapping.Schema.Options

/-!
# Shapes of option values

An option value has a shape when it is one of the kinds of value that the shape allows.  A mapping
that describes a lookup or an insert model has no other keys than these have, and its name is a
text.

The main statements say that exactly the values of a shape are read, and what is expected instead
of the others.
-/

namespace SqlMapping

/-- A text, or bytes that encode one. -/
def Value.encodedText? : Value → Option String
  | .text content => some content
  | .bytes content => String.fromUTF8? ⟨content.toArray⟩
  | _ => none

namespace Checked

variable {α β : Type}

/-- What is made of a part that is read does not count. -/
theorem exists_map_iff
    {checked : Checked α}
    {function : α → β} :
    (∃ value, (checked >>= fun part => Except.ok (function part)) = .ok value) ↔
      ∃ part, checked = .ok part := by
  cases checked with
  | ok part => exact iff_of_true ⟨function part, rfl⟩ ⟨part, rfl⟩
  | error issues =>
      exact iff_of_false Outcome.not_exists_error_eq_ok Outcome.not_exists_error_eq_ok

theorem exists_both_iff
    {first : Checked α}
    {second : Checked β} :
    (∃ pair, both first second = .ok pair) ↔
      (∃ value, first = .ok value) ∧ ∃ value, second = .ok value := by
  cases first with
  | ok value =>
      cases second with
      | ok other => exact iff_of_true ⟨_, rfl⟩ ⟨⟨value, rfl⟩, ⟨other, rfl⟩⟩
      | error issues =>
          exact iff_of_false Outcome.not_exists_error_eq_ok fun reads =>
            Outcome.not_exists_error_eq_ok reads.2
  | error issues =>
      have failed : ¬∃ pair : α × β, both (.error issues) second = .ok pair := by
        cases second with
        | ok value => exact Outcome.not_exists_error_eq_ok
        | error others => exact Outcome.not_exists_error_eq_ok
      exact iff_of_false failed fun reads => Outcome.not_exists_error_eq_ok reads.1

theorem exists_within_iff
    {step : String}
    {checked : Checked α} :
    (∃ value, within step checked = .ok value) ↔ ∃ value, checked = .ok value := by
  cases checked with
  | ok value => exact Iff.rfl
  | error issues =>
      exact iff_of_false Outcome.not_exists_error_eq_ok Outcome.not_exists_error_eq_ok

/-- An entry that may be missing is read when its value is, if it is there. -/
theorem exists_entry_iff
    {entries : List (String × Value)}
    {key : String}
    {fallback : α}
    {read : Value → Checked α} :
    (∃ value, entry entries key (some fallback) read = .ok value) ↔
      ∀ value, entries.lookup key = some value → ∃ result, read value = .ok result := by
  rw [entry, exists_within_iff]
  cases entries.lookup key with
  | none =>
      constructor
      · rintro - _ ⟨⟩
      · exact fun _ => ⟨fallback, rfl⟩
  | some value =>
      constructor
      · rintro reads _ ⟨⟩
        exact reads
      · exact fun reads => reads value rfl

theorem exists_knownOnly_iff
    {keys : List String}
    {entries : List (String × Value)} :
    (∃ value, knownOnly keys entries = .ok value) ↔ ∀ entry ∈ entries, entry.1 ∈ keys := by
  rw [knownOnly]
  split_ifs with none
  · rw [List.isEmpty_iff, List.filter_eq_nil_iff] at none
    refine ⟨fun _ entry member => ?_, fun _ => ⟨(), rfl⟩⟩
    have known := none entry member
    rw [Bool.not_eq_true, Bool.not_eq_false'] at known
    exact List.contains_iff_mem.1 known
  · constructor
    · rintro ⟨_, impossible⟩
      cases impossible
    · intro known
      refine absurd ?_ none
      rw [List.isEmpty_iff, List.filter_eq_nil_iff]
      intro entry member
      rw [List.contains_iff_mem.2 (known entry member)]
      exact Bool.false_ne_true

theorem exists_text?_iff {value : Value} :
    (∃ content, text? value = .ok content) ↔
      value = .null ∨ value.encodedText?.isSome = true := by
  have reads : (∃ content, text value = .ok content) ↔ value.encodedText?.isSome = true := by
    cases value with
    | text content => exact iff_of_true ⟨content, rfl⟩ rfl
    | bytes content =>
        rw [text, Value.encodedText?]
        cases String.fromUTF8? ⟨content.toArray⟩ with
        | some content => exact iff_of_true ⟨content, rfl⟩ rfl
        | none => exact iff_of_false Outcome.not_exists_error_eq_ok Bool.false_ne_true
    | _ => exact iff_of_false Outcome.not_exists_error_eq_ok Bool.false_ne_true
  by_cases isNull : value = .null
  · rw [isNull]
    exact ⟨fun _ => .inl rfl, fun _ => ⟨none, rfl⟩⟩
  · rw [or_iff_right isNull, ← reads, text?.eq_2 value isNull]
    cases text value with
    | ok content => exact iff_of_true ⟨some content, rfl⟩ ⟨content, rfl⟩
    | error issues =>
        exact iff_of_false Outcome.not_exists_error_eq_ok Outcome.not_exists_error_eq_ok

end Checked

/-- A text that is not empty. -/
def Value.IsFilledText (value : Value) : Prop :=
  ∃ content : String, content ≠ "" ∧ value = .text content

/-- A mapping has no other keys than some. -/
def HasOnly (keys : List String) (entries : List (String × Value)) : Prop :=
  ∀ entry ∈ entries, entry.1 ∈ keys

/-- A mapping has a name that is a text, or none. -/
def NamesAtMost (entries : List (String × Value)) : Prop :=
  ∀ value, entries.lookup "name" = some value →
    value = .null ∨ value.encodedText?.isSome = true

namespace OptionShape

/-- A value has a shape. -/
def Fits : OptionShape → Value → Prop
  | .text, value => value.IsFilledText
  | .flag, value => ∃ isSet : Bool, value = .bool isSet
  | .functionName, value => value = .bool true ∨ value.IsFilledText
  | .lookup, value =>
    value = .bool true ∨ value.IsFilledText ∨
      (∃ name argumentType, value = .lookupOption name argumentType) ∨
      ∃ entries, value = .object entries ∧ HasOnly ["name", "arg_type"] entries ∧
        NamesAtMost entries
  | .insertable, value =>
    value = .bool true ∨ value.IsFilledText ∨
      (∃ name config, value = .insertOption name config) ∨
      ∃ entries, value = .object entries ∧ HasOnly ["name", "config"] entries ∧
        NamesAtMost entries ∧
        ∀ config, entries.lookup "config" = some config → ∃ inner, config = .object inner
  | .target, value =>
    value.IsFilledText ∨
      ∃ reference : TypeRef, value = .type reference ∧ reference.path?.isSome = true

/-- What is expected of a value that does not have a shape. -/
def expected : OptionShape → Value → Expectation
  | .text, _ => .nonEmptyText
  | .flag, _ => .flag
  | .functionName, _ => .functionName
  | .lookup, .object _ => .lookupFields
  | .lookup, _ => .lookup
  | .insertable, .object _ => .insertableFields
  | .insertable, _ => .insertable
  | .target, _ => .target

theorem nonEmptyText?_eq_some_iff {value : Value} {content : String} :
    nonEmptyText? value = some content ↔ content ≠ "" ∧ value = .text content := by
  cases value with
  | text other =>
      rw [nonEmptyText?]
      split_ifs with isEmpty
      · rw [String.isEmpty_iff] at isEmpty
        constructor
        · intro impossible
          cases impossible
        · rintro ⟨filled, ⟨⟩⟩
          exact absurd isEmpty filled
      · rw [String.isEmpty_iff] at isEmpty
        constructor
        · rintro ⟨⟩
          exact ⟨isEmpty, rfl⟩
        · rintro ⟨-, ⟨⟩⟩
          rfl
  | _ =>
      constructor
      · intro impossible
        cases impossible
      · rintro ⟨-, impossible⟩
        cases impossible

end OptionShape

/-! ## Descriptions -/

theorem exists_name_iff {entries : List (String × Value)} :
    (∃ name, Checked.entry entries "name" (some none) Checked.text? = .ok name) ↔
      NamesAtMost entries := by
  rw [Checked.exists_entry_iff]
  exact forall_congr' fun value => imp_congr_right fun _ => Checked.exists_text?_iff

theorem LookupOption.exists_ofEntries_iff (entries : List (String × Value)) :
    (∃ option, ofEntries entries = .ok option) ↔
      HasOnly ["name", "arg_type"] entries ∧ NamesAtMost entries := by
  have anyType :
      ∃ type, Checked.entry entries "arg_type" (some .null) Checked.any = .ok type := by
    rw [Checked.exists_entry_iff]
    exact fun value _ => ⟨value, rfl⟩
  rw [ofEntries]
  refine Checked.exists_map_iff.trans ?_
  rw [Checked.exists_both_iff, Checked.exists_both_iff, exists_name_iff,
    and_iff_left anyType, Checked.exists_knownOnly_iff, and_comm]
  rfl

theorem InsertOption.exists_ofEntries_iff (entries : List (String × Value)) :
    (∃ option, ofEntries entries = .ok option) ↔
      HasOnly ["name", "config"] entries ∧ NamesAtMost entries ∧
        ∀ config, entries.lookup "config" = some config → ∃ inner, config = .object inner := by
  have configures :
      (∃ config, Checked.entry entries "config" (some []) Checked.mapping = .ok config) ↔
        ∀ config, entries.lookup "config" = some config → ∃ inner, config = .object inner := by
    rw [Checked.exists_entry_iff]
    refine forall_congr' fun value => imp_congr_right fun _ => ?_
    cases value with
    | object inner => exact iff_of_true ⟨inner, rfl⟩ ⟨inner, rfl⟩
    | _ =>
        refine iff_of_false Outcome.not_exists_error_eq_ok ?_
        rintro ⟨_, impossible⟩
        cases impossible
  rw [ofEntries]
  refine Checked.exists_map_iff.trans ?_
  rw [Checked.exists_both_iff, Checked.exists_both_iff, exists_name_iff, configures,
    Checked.exists_knownOnly_iff, and_comm]
  rfl

namespace OptionShape

/-- A value that fits is read, and any other is refused for what is expected instead. -/
def Judges
    {α : Type}
    (fits : Prop)
    (expectation : Expectation) :
    Except Expectation α → Prop
  | .ok _ => fits
  | .error other => other = expectation ∧ ¬fits

theorem Judges.map
    {α β : Type}
    {fits : Prop}
    {expectation : Expectation}
    {outcome : Except Expectation α}
    (judges : Judges fits expectation outcome)
    (function : α → β) :
    Judges fits expectation (outcome.map function) := by
  cases outcome with
  | ok value => exact judges
  | error other => exact judges

/-- A description is read when it is one. -/
theorem judges_of_described
    {α : Type}
    {described : Checked α}
    {outcome : Except Expectation α}
    {fits : Prop}
    {expectation : Expectation}
    (describes : (∃ option, described = .ok option) ↔ fits)
    (reads : ∀ option, described = .ok option → outcome = .ok option)
    (refuses : ∀ issues, described = .error issues → outcome = .error expectation) :
    Judges fits expectation outcome := by
  cases read : described with
  | ok option =>
      rw [reads option read]
      exact describes.1 ⟨option, read⟩
  | error issues =>
      rw [refuses issues read]
      refine ⟨rfl, fun fits => ?_⟩
      rcases describes.2 fits with ⟨option, isRead⟩
      rw [read] at isRead
      cases isRead

theorem judges_text
    {α : Type}
    {make : String → α}
    {content : String}
    {expectation : Expectation} :
    Judges (Value.text content).IsFilledText expectation
      (match nonEmptyText? (.text content) with
        | some content => Except.ok (make content)
        | none => .error expectation) := by
  cases read : nonEmptyText? (.text content) with
  | some other => exact ⟨other, nonEmptyText?_eq_some_iff.1 read⟩
  | none =>
      refine ⟨rfl, ?_⟩
      rintro ⟨other, isFilled⟩
      rw [nonEmptyText?_eq_some_iff.2 isFilled] at read
      cases read

theorem Judges.congr
    {α : Type}
    {fits other : Prop}
    {expectation : Expectation}
    {outcome : Except Expectation α}
    (judges : Judges fits expectation outcome)
    (same : fits ↔ other) :
    Judges other expectation outcome := by
  rw [← same]
  exact judges

theorem judges_readLookup (value : Value) :
    Judges (Fits .lookup value) (expected .lookup value) (readLookup value) := by
  cases value with
  | bool isSet =>
      cases isSet with
      | true => exact .inl rfl
      | false => exact ⟨rfl, by simp [Fits, Value.IsFilledText]⟩
  | text content => exact Judges.congr judges_text (by simp [Fits])
  | object entries =>
      refine Judges.congr (judges_of_described (LookupOption.exists_ofEntries_iff entries) ?_ ?_) ?_
      · exact fun option isRead => by rw [readLookup, isRead]
      · exact fun issues isRefused => by rw [readLookup, isRefused, expected]
      · simp [Fits, Value.IsFilledText]
  | lookupOption name argumentType => exact .inr (.inr (.inl ⟨name, argumentType, rfl⟩))
  | _ => exact ⟨rfl, by simp [Fits, Value.IsFilledText]⟩

theorem judges_readInsertable (value : Value) :
    Judges (Fits .insertable value) (expected .insertable value) (readInsertable value) := by
  cases value with
  | bool isSet =>
      cases isSet with
      | true => exact .inl rfl
      | false => exact ⟨rfl, by simp [Fits, Value.IsFilledText]⟩
  | text content => exact Judges.congr judges_text (by simp [Fits])
  | object entries =>
      refine Judges.congr (judges_of_described (InsertOption.exists_ofEntries_iff entries) ?_ ?_) ?_
      · exact fun option isRead => by rw [readInsertable, isRead]
      · exact fun issues isRefused => by rw [readInsertable, isRefused, expected]
      · simp [Fits, Value.IsFilledText]
  | insertOption name config => exact .inr (.inr (.inl ⟨name, config, rfl⟩))
  | _ => exact ⟨rfl, by simp [Fits, Value.IsFilledText]⟩

/-- Exactly the values of a shape are read, and the others are refused for what is expected. -/
theorem judges_read (shape : OptionShape) (value : Value) :
    Judges (shape.Fits value) (shape.expected value) (shape.read value) := by
  cases shape with
  | text =>
      cases value with
      | text content => exact judges_text
      | _ => exact ⟨rfl, by simp [Fits, Value.IsFilledText]⟩
  | flag =>
      cases value with
      | bool isSet => exact ⟨isSet, rfl⟩
      | _ => exact ⟨rfl, by simp [Fits]⟩
  | functionName =>
      cases value with
      | bool isSet =>
          cases isSet with
          | true => exact .inl rfl
          | false => exact ⟨rfl, by simp [Fits, Value.IsFilledText]⟩
      | text content => exact Judges.congr judges_text (by simp [Fits])
      | _ => exact ⟨rfl, by simp [Fits, Value.IsFilledText]⟩
  | lookup => exact (judges_readLookup value).map _
  | insertable => exact (judges_readInsertable value).map _
  | target =>
      cases value with
      | text content => exact Judges.congr judges_text (by simp [Fits])
      | type reference =>
          rw [read]
          split_ifs with hasPath
          · exact .inr ⟨reference, rfl, hasPath⟩
          · exact ⟨rfl, by simp [Fits, Value.IsFilledText, hasPath]⟩
      | _ => exact ⟨rfl, by simp [Fits, Value.IsFilledText]⟩

end OptionShape

end SqlMapping
