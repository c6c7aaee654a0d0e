import SqlMapping.Proofs.Entries
import SqlMapping.Proofs.Schema.Shapes

/-!
# Requirements in order

What a declaration has to meet is a list of requirements, each with the refusal of a declaration
that does not meet it.  A check decides the list when it succeeds where all of them hold, and else
fails as the first of them that does not.

The main statements say that checks made one after the other decide their requirements one after
the other, and that reading options decides what is required of them.
-/

namespace SqlMapping

/-- Something that a declaration has to meet, and the refusal of one that does not. -/
structure Requirement where
  holds : Prop
  refusal : BuildError

namespace Requirement

/-- Every requirement holds. -/
def AllHold (requirements : List Requirement) : Prop :=
  ∀ requirement ∈ requirements, requirement.holds

/-- An error is the refusal of the first requirement that does not hold. -/
inductive FirstRefusal : List Requirement → BuildError → Prop where
  | here
      {requirement : Requirement}
      {rest : List Requirement}
      (fails : ¬requirement.holds) :
      FirstRefusal (requirement :: rest) requirement.refusal
  | later
      {requirement : Requirement}
      {rest : List Requirement}
      {error : BuildError}
      (holds : requirement.holds)
      (refuses : FirstRefusal rest error) :
      FirstRefusal (requirement :: rest) error

variable {first rest : List Requirement} {error other : BuildError}

theorem allHold_append_iff : AllHold (first ++ rest) ↔ AllHold first ∧ AllHold rest :=
  List.forall_mem_append

theorem allHold_cons_iff {requirement : Requirement} :
    AllHold (requirement :: rest) ↔ requirement.holds ∧ AllHold rest :=
  List.forall_mem_cons

theorem allHold_singleton_iff {requirement : Requirement} :
    AllHold [requirement] ↔ requirement.holds :=
  List.forall_mem_singleton

theorem FirstRefusal.not_allHold (refuses : FirstRefusal first error) : ¬AllHold first := by
  intro allHold
  induction refuses with
  | here fails => exact fails (allHold_cons_iff.1 allHold).1
  | later holds refuses inductionHypothesis =>
      exact inductionHypothesis (allHold_cons_iff.1 allHold).2

/-- There is only one first refusal. -/
theorem FirstRefusal.unique
    (refuses : FirstRefusal first error)
    (others : FirstRefusal first other) :
    error = other := by
  induction refuses with
  | here fails =>
      cases others with
      | here _ => rfl
      | later holds _ => exact absurd holds fails
  | later holds refuses inductionHypothesis =>
      cases others with
      | here fails => exact absurd holds fails
      | later _ refuses => exact inductionHypothesis refuses

theorem FirstRefusal.append_right
    (refuses : FirstRefusal first error)
    (rest : List Requirement) :
    FirstRefusal (first ++ rest) error := by
  induction refuses with
  | here fails => exact .here fails
  | later holds _ inductionHypothesis => exact .later holds inductionHypothesis

theorem FirstRefusal.append_left
    (allHold : AllHold first)
    (refuses : FirstRefusal rest error) :
    FirstRefusal (first ++ rest) error := by
  induction first with
  | nil => exact refuses
  | cons requirement others inductionHypothesis =>
      rcases allHold_cons_iff.1 allHold with ⟨holds, othersHold⟩
      exact .later holds (inductionHypothesis othersHold)

/-! ## Checks -/

variable {α β : Type} {outcome : Except BuildError α}

/-- A check succeeds where all requirements hold, and else fails as the first that does not. -/
def Decides (requirements : List Requirement) : Except BuildError α → Prop
  | .ok _ => AllHold requirements
  | .error error => FirstRefusal requirements error

theorem Decides.exists_ok_iff (decides : Decides first outcome) :
    (∃ value, outcome = .ok value) ↔ AllHold first := by
  cases outcome with
  | ok value => exact ⟨fun _ => decides, fun _ => ⟨value, rfl⟩⟩
  | error error =>
      constructor
      · rintro ⟨value, impossible⟩
        cases impossible
      · intro allHold
        exact absurd allHold decides.not_allHold

theorem Decides.eq_error_iff (decides : Decides first outcome) :
    outcome = .error error ↔ FirstRefusal first error := by
  cases outcome with
  | ok value =>
      constructor
      · intro impossible
        cases impossible
      · intro refuses
        exact absurd decides refuses.not_allHold
  | error other =>
      constructor
      · rintro ⟨⟩
        exact decides
      · intro refuses
        rw [decides.unique refuses]

/-- Checks that follow one another decide their requirements in that order. -/
theorem Decides.bind
    {next : α → Except BuildError β}
    (decides : Decides first outcome)
    (follows : ∀ value, outcome = .ok value → Decides rest (next value)) :
    Decides (first ++ rest) (outcome >>= next) := by
  cases outcome with
  | error error => exact decides.append_right rest
  | ok value =>
      have decidesRest := follows value rfl
      rw [Outcome.ok_bind]
      cases result : next value with
      | error error =>
          rw [result] at decidesRest
          exact FirstRefusal.append_left decides decidesRest
      | ok last =>
          rw [result] at decidesRest
          exact allHold_append_iff.2 ⟨decides, decidesRest⟩

theorem decides_nil (value : α) : Decides [] (.ok value) := by
  intro requirement member
  cases member

/-- What follows an outcome without changing whether it succeeds requires nothing more. -/
theorem Decides.map
    {function : α → β}
    (decides : Decides first outcome) :
    Decides first (outcome >>= fun value => .ok (function value)) := by
  cases outcome with
  | error error => exact decides
  | ok value => exact decides

/-- A check of its own before others. -/
theorem Decides.cons
    {requirement : Requirement}
    (violated : ¬requirement.holds → outcome = .error requirement.refusal)
    (decides : requirement.holds → Decides rest outcome) :
    Decides (requirement :: rest) outcome := by
  by_cases holds : requirement.holds
  · have others := decides holds
    cases outcome with
    | ok value => exact allHold_cons_iff.2 ⟨holds, others⟩
    | error error => exact .later holds others
  · rw [violated holds]
    exact .here holds

end Requirement

namespace OptionGrammar

variable {grammar : OptionGrammar} {location : String}

/-- What is expected of the value of an option. -/
def expected (grammar : OptionGrammar) (option : Attribute) : Expectation :=
  ((grammar.lookup option.key).map fun shape => shape.expected option.value).getD .nonEmptyText

/-- The value of an option has the shape that a grammar gives to its key. -/
def Fits (grammar : OptionGrammar) (option : Attribute) : Prop :=
  ∀ shape, grammar.lookup option.key = some shape → shape.Fits option.value

/-- What is required of options after others: first of the key, and last of the value, of each. -/
def requirements (grammar : OptionGrammar) (location : String) :
    (earlier : List String) → List Attribute → List Requirement
  | _, [] => []
  | earlier, option :: rest =>
    ⟨option.key ∈ grammar.map Prod.fst,
      .unknownAttribute option.key grammar.keys location⟩ ::
    ⟨option.key ∉ earlier, .duplicateAttribute option.key location⟩ ::
    ⟨grammar.Fits option,
      .invalidAttribute option.key option.value (grammar.expected option) location⟩ ::
    grammar.requirements location (option.key :: earlier) rest

/-- Options that a grammar allows. -/
structure Accepts (grammar : OptionGrammar) (attributes : List Attribute) : Prop where
  known : ∀ option ∈ attributes, option.key ∈ grammar.map Prod.fst
  once : (attributes.map Attribute.key).Nodup
  fits : ∀ option ∈ attributes, grammar.Fits option

theorem allHold_requirements_iff
    {earlier : List String}
    {attributes : List Attribute} :
    Requirement.AllHold (grammar.requirements location earlier attributes) ↔
      grammar.Accepts attributes ∧ ∀ option ∈ attributes, option.key ∉ earlier := by
  induction attributes generalizing earlier with
  | nil =>
      constructor
      · intro _
        refine ⟨⟨?_, List.nodup_nil, ?_⟩, ?_⟩
        all_goals
          intro option member
          cases member
      · intro _ requirement member
        cases member
  | cons option rest inductionHypothesis =>
      rw [requirements, Requirement.allHold_cons_iff, Requirement.allHold_cons_iff,
        Requirement.allHold_cons_iff, inductionHypothesis]
      constructor
      · rintro ⟨known, fresh, fits, others, later⟩
        refine ⟨⟨?_, ?_, ?_⟩, ?_⟩
        · exact List.forall_mem_cons.2 ⟨known, others.known⟩
        · rw [List.map_cons, List.nodup_cons]
          refine ⟨fun member => ?_, others.once⟩
          rcases List.mem_map.1 member with ⟨other, isOther, same⟩
          exact later other isOther (same ▸ List.mem_cons_self)
        · exact List.forall_mem_cons.2 ⟨fits, others.fits⟩
        · refine List.forall_mem_cons.2 ⟨fresh, fun other isOther isEarlier => ?_⟩
          exact later other isOther (List.mem_cons_of_mem option.key isEarlier)
      · rintro ⟨accepts, fresh⟩
        rcases List.forall_mem_cons.1 accepts.known with ⟨known, othersKnown⟩
        rcases List.forall_mem_cons.1 accepts.fits with ⟨fits, othersFit⟩
        rcases List.forall_mem_cons.1 fresh with ⟨isFresh, othersFresh⟩
        rcases List.nodup_cons.1 accepts.once with ⟨notRest, once⟩
        refine ⟨known, isFresh, fits, ⟨othersKnown, once, othersFit⟩, fun other isOther => ?_⟩
        intro isEarlier
        rcases List.mem_cons.1 isEarlier with same | isSeen
        · exact notRest (same ▸ List.mem_map_of_mem isOther)
        · exact othersFresh other isOther isSeen

/-- The requirements of all options hold exactly if the options are allowed. -/
theorem allHold_iff_accepts {attributes : List Attribute} :
    Requirement.AllHold (grammar.requirements location [] attributes) ↔
      grammar.Accepts attributes := by
  rw [allHold_requirements_iff]
  exact and_iff_left fun _ _ => List.not_mem_nil

theorem decides_readOne
    {option : Attribute}
    (known : option.key ∈ grammar.map Prod.fst) :
    Requirement.Decides
      [⟨grammar.Fits option,
        .invalidAttribute option.key option.value (grammar.expected option) location⟩]
      (grammar.readOne location option) := by
  rcases Option.isSome_iff_exists.1 (Entries.mem_map_fst_iff.1 known) with ⟨shape, isShape⟩
  have fits : grammar.Fits option ↔ shape.Fits option.value := by
    constructor
    · exact fun fits => fits shape isShape
    · intro fits other isOther
      rw [isShape] at isOther
      cases isOther
      exact fits
  have judges := OptionShape.judges_read shape option.value
  rw [fits, expected, isShape]
  cases read : shape.read option.value with
  | ok value =>
      rw [read] at judges
      have isRead : grammar.readOne location option = .ok value := by
        rw [readOne, isShape]
        dsimp only
        rw [read]
      rw [isRead]
      exact Requirement.allHold_singleton_iff.2 judges
  | error expectation =>
      rw [read] at judges
      rcases judges with ⟨same, misfits⟩
      have isRefused :
          grammar.readOne location option =
            .error (.invalidAttribute option.key option.value expectation location) := by
        rw [readOne, isShape]
        dsimp only
        rw [read]
      rw [isRefused, same]
      exact Requirement.FirstRefusal.here misfits

/-- Reading options decides what is required of them. -/
theorem decides_collectAfter
    (grammar : OptionGrammar)
    (location : String)
    (earlier : List String)
    (attributes : List Attribute) :
    Requirement.Decides (grammar.requirements location earlier attributes)
      (grammar.collectAfter location earlier attributes) := by
  induction attributes generalizing earlier with
  | nil => exact Requirement.decides_nil _
  | cons option rest inductionHypothesis =>
      rw [requirements, collectAfter]
      apply Requirement.Decides.cons
      · intro unknown
        have absent : (grammar.lookup option.key).isNone = true := by
          rw [Option.isNone_iff_eq_none, ← Option.not_isSome_iff_eq_none]
          exact fun isThere => unknown (Entries.mem_map_fst_iff.2 isThere)
        rw [if_pos absent]
      intro known
      have present : ¬(grammar.lookup option.key).isNone = true := by
        rw [Option.isNone_iff_eq_none, ← Option.not_isSome_iff_eq_none, not_not]
        exact Entries.mem_map_fst_iff.1 known
      rw [if_neg present]
      apply Requirement.Decides.cons
      · intro repeated
        rw [if_pos (List.contains_iff_mem.2 (not_not.1 repeated))]
      intro fresh
      rw [if_neg fun isEarlier => fresh (List.contains_iff_mem.1 isEarlier)]
      exact (decides_readOne known).bind fun value _ =>
        (inductionHypothesis (option.key :: earlier)).map

end OptionGrammar

end SqlMapping
