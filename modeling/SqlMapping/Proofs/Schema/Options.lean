import SqlMapping.Proofs.Outcome
import SqlMapping.Schema.Options

/-!
# Accepted options

Options are accepted when their keys are known and pairwise different and every value fits its
shape.  What is read under one key does not depend on the options under the others.

The main statements say when options are accepted, and that some of them can be left out.
-/

namespace SqlMapping

namespace OptionGrammar

/-- Whether an option is read as an entry on its own. -/
def Reads
    (grammar : OptionGrammar)
    (location : String)
    (option : Attribute)
    (entry : String × OptionValue) : Prop :=
  entry.1 = option.key ∧ grammar.readOne location option = .ok entry.2

variable {grammar : OptionGrammar} {location : String}

/-- Options after others are accepted when no key is used again and each is read on its own. -/
theorem collectAfter_eq_ok_iff
    {seen : List String}
    {attributes : List Attribute}
    {options : Options} :
    grammar.collectAfter location seen attributes = .ok options ↔
      (attributes.map Attribute.key).Nodup ∧
        (∀ option ∈ attributes, option.key ∉ seen) ∧
          List.Forall₂ (grammar.Reads location) attributes options := by
  induction attributes generalizing seen options with
  | nil => simp [eq_comm]
  | cons option rest inductionHypothesis =>
      rw [List.forall₂_cons_left_iff]
      constructor
      · intro accepted
        have known : (grammar.lookup option.key).isNone = false := by
          by_contra unknown
          rw [collectAfter, if_pos (Bool.of_not_eq_false unknown)] at accepted
          cases accepted
        have fresh : option.key ∉ seen := by
          intro repeated
          rw [collectAfter, known, if_neg Bool.false_ne_true,
            if_pos (List.contains_iff_mem.2 repeated)] at accepted
          cases accepted
        cases read : grammar.readOne location option with
        | error error =>
            rw [collectAfter, known, if_neg Bool.false_ne_true,
              if_neg (by simpa using fresh), read] at accepted
            cases accepted
        | ok value =>
            rw [collectAfter_cons_of_accepted fresh read] at accepted
            cases others : grammar.collectAfter location (option.key :: seen) rest with
            | error error =>
                rw [others] at accepted
                cases accepted
            | ok entries =>
                rw [others, Outcome.map_ok, Except.ok.injEq] at accepted
                rcases inductionHypothesis.1 others with ⟨distinct, unseen, readAll⟩
                refine ⟨?_, ?_, (option.key, value), entries, ⟨rfl, read⟩, readAll, accepted.symm⟩
                · rw [List.map_cons, List.nodup_cons]
                  refine ⟨fun member => ?_, distinct⟩
                  rcases List.mem_map.1 member with ⟨other, inRest, same⟩
                  exact unseen other inRest (by rw [same]; exact List.mem_cons_self)
                · intro other member
                  rcases List.mem_cons.1 member with rfl | inRest
                  · exact fresh
                  · exact fun inSeen => unseen other inRest (List.mem_cons_of_mem _ inSeen)
      · rintro ⟨distinct, unseen, entry, entries, ⟨sameKey, read⟩, readAll, rfl⟩
        rw [List.map_cons, List.nodup_cons] at distinct
        have others :
            grammar.collectAfter location (option.key :: seen) rest = .ok entries := by
          refine inductionHypothesis.2 ⟨distinct.2, fun other inRest => ?_, readAll⟩
          intro member
          rcases List.mem_cons.1 member with same | inSeen
          · exact distinct.1 (same ▸ List.mem_map_of_mem inRest)
          · exact unseen other (List.mem_cons_of_mem option inRest) inSeen
        rw [collectAfter_cons_of_accepted (unseen option List.mem_cons_self) read, others,
          Outcome.map_ok, ← sameKey]

/-- Options are accepted when their keys are different and each is read on its own. -/
theorem collect_eq_ok_iff
    {attributes : List Attribute}
    {options : Options} :
    grammar.collect location attributes = .ok options ↔
      (attributes.map Attribute.key).Nodup ∧
        List.Forall₂ (grammar.Reads location) attributes options := by
  rw [collect, collectAfter_eq_ok_iff]
  simp

/-- Accepted options keep their keys. -/
theorem map_fst_of_collect
    {attributes : List Attribute}
    {options : Options}
    (accepted : grammar.collect location attributes = .ok options) :
    options.map Prod.fst = attributes.map Attribute.key := by
  rcases collect_eq_ok_iff.1 accepted with ⟨-, readAll⟩
  clear accepted
  induction readAll with
  | nil => rfl
  | cons read others inductionHypothesis =>
      rw [List.map_cons, List.map_cons, read.1, inductionHypothesis]

/-- Nothing is found under a key that no option has. -/
theorem lookup_eq_none_of_collect
    {attributes : List Attribute}
    {options : Options}
    {key : String}
    (accepted : grammar.collect location attributes = .ok options)
    (absent : ∀ option ∈ attributes, (option.key != key) = true) :
    options.lookup key = none := by
  rw [List.lookup_eq_none_iff]
  intro entry member
  have isKey : entry.1 ∈ attributes.map Attribute.key := by
    rw [← map_fst_of_collect accepted]
    exact List.mem_map_of_mem member
  rcases List.mem_map.1 isKey with ⟨option, isOption, same⟩
  rw [← same, bne_comm]
  exact absent option isOption

/-- A text that is not empty is read as it is. -/
theorem readOne_text
    {key content : String}
    (shape : grammar.lookup key = some .text)
    (notEmpty : content ≠ "") :
    grammar.readOne location ⟨key, .text content⟩ = .ok (.text content) := by
  have full : content.isEmpty = false := by
    rw [← Bool.not_eq_true, String.isEmpty_iff]
    exact notEmpty
  simp [readOne, shape, OptionShape.read, OptionShape.nonEmptyText?, full]

/-- Options under some keys only are read as before. -/
theorem collect_filter
    {attributes : List Attribute}
    {options : Options}
    (keeps : String → Bool)
    (accepted : grammar.collect location attributes = .ok options) :
    grammar.collect location (attributes.filter fun option => keeps option.key) =
      .ok (options.filter fun entry => keeps entry.1) := by
  rw [collect_eq_ok_iff] at accepted ⊢
  rcases accepted with ⟨distinct, readAll⟩
  constructor
  · exact distinct.sublist (List.filter_sublist.map Attribute.key)
  · clear distinct
    induction readAll with
    | nil => exact .nil
    | @cons option entry rest entries read others inductionHypothesis =>
        rw [List.filter_cons, List.filter_cons, read.1]
        split_ifs
        · exact .cons read inductionHypothesis
        · exact inductionHypothesis

end OptionGrammar

namespace Options

/-- What is found under a key that is kept does not depend on the other options. -/
theorem lookup_filter
    (keeps : String → Bool)
    (options : Options)
    {key : String}
    (kept : keeps key = true) :
    (options.filter fun entry => keeps entry.1).lookup key = options.lookup key := by
  induction options with
  | nil => rfl
  | cons entry rest inductionHypothesis =>
      rcases entry with ⟨other, value⟩
      rw [List.filter_cons]
      split_ifs with otherKept
      · rw [List.lookup_cons, List.lookup_cons, inductionHypothesis]
      · have different : (key == other) = false := by
          rw [beq_eq_false_iff_ne]
          rintro rfl
          exact otherKept kept
        rw [List.lookup_cons, different]
        exact inductionHypothesis

/-- Nothing is found under a key that is left out. -/
theorem lookup_filter_of_dropped
    (keeps : String → Bool)
    (options : Options)
    {key : String}
    (dropped : keeps key = false) :
    (options.filter fun entry => keeps entry.1).lookup key = none := by
  rw [List.lookup_eq_none_iff]
  intro entry member
  rw [bne_iff_ne]
  rintro rfl
  have kept := (List.mem_filter.1 member).2
  rw [dropped] at kept
  cases kept

end Options

end SqlMapping
