import SqlMapping.Proofs.Query.Spellings

/-!
# Select lists after DISTINCT and ALL

The select list of a statement begins after the word DISTINCT or ALL if this directly follows the
word SELECT.  So does the list of a statement whose first item begins with such a word, which is
then no part of the item any more.

The main statements find the select list after such a word, and take a text apart that begins
with one.
-/

namespace SqlMapping.Query

open Text

variable {gap quantifier list rest text : List Char}

/-- The words that belong to the word SELECT before them, in any letter case. -/
structure IsQuantifier (word : List Char) : Prop where
  isName : Query.isName word = true
  isKeyword : word.map Char.toUpper = "DISTINCT".toList ∨ word.map Char.toUpper = "ALL".toList

/-! ## Blanks -/

/-- A blank does not make a word the rest of a longer name. -/
theorem joinsWord_of_isBlank
    {character : Char}
    (blank : isBlank character = true) :
    joinsWord character = false := by
  have noAlphanumeric :
      ∀ range ∈ (0x1C, 0x1F) :: whiteSpaceRanges, ∀ offset < 11, range.1 + offset ≤ range.2 →
        inRanges alphanumericRanges (range.1 + offset) = false := by
    decide +kernel
  have areNarrow : ∀ range ∈ (0x1C, 0x1F) :: whiteSpaceRanges, range.2 < range.1 + 11 := by decide
  obtain ⟨range, listed, above, below⟩ :
      ∃ range ∈ (0x1C, 0x1F) :: whiteSpaceRanges,
        range.1 ≤ character.toNat ∧ character.toNat ≤ range.2 := by
    rcases (Bool.or_eq_true _ _).mp blank with isSpace | isSeparator
    · rcases exists_range_of_inRanges isSpace with ⟨range, listed, bounds⟩
      exact ⟨range, List.mem_cons_of_mem _ listed, bounds⟩
    · rw [Bool.and_eq_true, decide_eq_true_eq, decide_eq_true_eq] at isSeparator
      exact ⟨_, List.mem_cons_self, isSeparator⟩
  have notAlphanumeric : isAlphanumeric character = false := by
    have narrow := areNarrow range listed
    have apart :=
      noAlphanumeric range listed (character.toNat - range.1) (by omega) (by omega)
    rwa [Nat.add_sub_cancel' above] at apart
  have others : ∀ other ∈ ['_', '$', '.'], character ≠ other := by
    rintro other member rfl
    have visible : (['_', '$', '.'].all fun other => !isBlank other) = true := by decide
    have isVisible := List.all_eq_true.1 visible character member
    rw [blank] at isVisible
    cases isVisible
  simp only [List.mem_cons, List.not_mem_nil, or_false, forall_eq_or_imp, forall_eq] at others
  simp [joinsWord, notAlphanumeric, others]

theorem separated_of_isBlank
    (blank : ∀ character ∈ gap, isBlank character = true)
    (right : List Char) :
    Separated gap right :=
  Or.inl fun last isLast => joinsWord_of_isBlank (blank last (List.mem_of_getLast? isLast))

/-! ## Finding the select list -/

theorem Word.shift_mk (offset start stop : Nat) (upper : List Char) :
    (⟨start, stop, upper⟩ : Word).shift offset = ⟨start + offset, stop + offset, upper⟩ := rfl

/-- The words of a statement with DISTINCT or ALL: SELECT, this word, those of the list and FROM. -/
theorem topLevelWords_quantified
    (gapBlank : ∀ character ∈ gap, isBlank character = true)
    (gapNotEmpty : gap ≠ [])
    (isQuantifier : IsQuantifier quantifier)
    (begins : ∀ first ∈ (list ++ [' ']).head?, isWordCharacter first = false)
    (closed : IsClosed list)
    (ends : ∀ first ∈ rest.head?, isWordCharacter first = false) :
    ∃ others : List Word,
      topLevelWords
          ("SELECT".toList
            ++ (gap ++ (quantifier ++ ((list ++ [' ']) ++ ("FROM".toList ++ rest))))) =
        ⟨0, 6, "SELECT".toList⟩
          :: ⟨gap.length + 6, quantifier.length + gap.length + 6, quantifier.map Char.toUpper⟩
            :: ((topLevelWords list).map (Word.shift (quantifier.length + gap.length + 6))
              ++ ⟨list.length + 1 + (quantifier.length + gap.length + 6),
                  4 + (list.length + 1) + (quantifier.length + gap.length + 6), "FROM".toList⟩
                :: others) := by
  have select : topLevelWords "SELECT".toList = [⟨0, 6, "SELECT".toList⟩] := by decide +kernel
  have keyword : topLevelWords "FROM".toList = [⟨0, 4, "FROM".toList⟩] := by decide +kernel
  have selectClosed : IsClosed "SELECT".toList := rfl
  have keywordClosed : IsClosed "FROM".toList := rfl
  have selectLength : "SELECT".toList.length = 6 := rfl
  have keywordLength : "FROM".toList.length = 4 := rfl
  have gapEnds :
      ∀ first ∈ (gap ++ (quantifier ++ ((list ++ [' ']) ++ ("FROM".toList ++ rest)))).head?,
        isWordCharacter first = false := by
    intro first isFirst
    cases gap with
    | nil => exact absurd rfl gapNotEmpty
    | cons blank others =>
        obtain rfl : blank = first := Option.some.inj isFirst
        exact isWordCharacter_of_isBlank (gapBlank blank List.mem_cons_self)
  have listEnds :
      ∀ first ∈ ((list ++ [' ']) ++ ("FROM".toList ++ rest)).head?,
        isWordCharacter first = false := by
    intro first isFirst
    refine begins first ?_
    cases list with
    | nil => exact isFirst
    | cons _ _ => exact isFirst
  have padded : topLevelWords (list ++ [' ']) = topLevelWords list := by
    have blank : topLevelWords [' '] = [] := by decide +kernel
    rw [topLevelWords_append closed (separated_blank_cons list []), blank, List.map_nil,
      List.append_nil]
  refine
    ⟨(topLevelWords rest).map
      (Word.shift (4 + (list.length + 1) + (quantifier.length + gap.length + 6))), ?_⟩
  rw [topLevelWords_append selectClosed (Or.inr gapEnds), select,
    topLevelWords_append (isClosed_of_isBlank gapBlank) (separated_of_isBlank gapBlank _),
    topLevelWords_of_isBlank gapBlank,
    topLevelWords_append (scan_of_isName isQuantifier.isName).1 (Or.inr listEnds),
    topLevelWords_of_isName isQuantifier.isName,
    topLevelWords_append (closed.append isClosed_blank) (separated_append_blank list _), padded,
    topLevelWords_append keywordClosed (Or.inr ends), keyword]
  simp only [List.nil_append, List.singleton_append, List.map_append, List.map_cons,
    List.map_map, Function.comp_def, Word.shift_shift, Word.shift_mk, List.length_append,
    List.length_singleton, selectLength, keywordLength, Nat.zero_add, ← Nat.add_assoc]

/-- The select list after DISTINCT or ALL. -/
theorem selectListOf_quantified
    (gapBlank : ∀ character ∈ gap, isBlank character = true)
    (gapNotEmpty : gap ≠ [])
    (isQuantifier : IsQuantifier quantifier)
    (begins : ∀ first ∈ (list ++ [' ']).head?, isWordCharacter first = false)
    (closed : IsClosed list)
    (noFrom : ∀ word ∈ topLevelWords list, word.is "FROM" = false)
    (ends : ∀ first ∈ rest.head?, isWordCharacter first = false) :
    selectListOf
        ("SELECT".toList
          ++ (gap ++ (quantifier ++ ((list ++ [' ']) ++ ("FROM".toList ++ rest))))) =
      some (list ++ [' ']) := by
  rcases topLevelWords_quantified gapBlank gapNotEmpty isQuantifier begins closed ends with
    ⟨others, words⟩
  have nothing : trimBlanks gap = [] := by
    have trimmed := trimBlanks_append_left gapBlank []
    rwa [List.append_nil] at trimmed
  have keyword (position stop : Nat) :
      ((⟨position, stop, quantifier.map Char.toUpper⟩ : Word).is "DISTINCT"
        || (⟨position, stop, quantifier.map Char.toUpper⟩ : Word).is "ALL") = true := by
    rw [Bool.or_eq_true]
    exact isQuantifier.isKeyword.imp decide_eq_true decide_eq_true
  have between :
      slice
          ("SELECT".toList
            ++ (gap ++ (quantifier ++ ((list ++ [' ']) ++ ("FROM".toList ++ rest)))))
          6 (gap.length + 6) =
        gap := by
    rw [slice, Nat.add_sub_cancel]
    exact List.take_left' rfl
  have found :
      ((topLevelWords list).map (Word.shift (quantifier.length + gap.length + 6))
        ++ ⟨list.length + 1 + (quantifier.length + gap.length + 6),
            4 + (list.length + 1) + (quantifier.length + gap.length + 6), "FROM".toList⟩
          :: others).find? (fun word => word.is "FROM") =
        some ⟨list.length + 1 + (quantifier.length + gap.length + 6),
          4 + (list.length + 1) + (quantifier.length + gap.length + 6), "FROM".toList⟩ := by
    rw [List.find?_append, List.find?_eq_none.2, Option.none_or]
    · rfl
    · intro word member
      rcases List.mem_map.1 member with ⟨unshifted, inList, rfl⟩
      rw [Word.is_shift, noFrom unshifted inList]
      exact Bool.false_ne_true
  rw [selectListOf, words, List.dropWhile_cons_of_neg (by decide)]
  dsimp only
  rw [skipQuantifier, between, nothing, keyword]
  simp only [List.isEmpty_nil, Bool.and_true, if_true, found, Option.map_some, Option.getD_some]
  have remaining :
      ("SELECT".toList
            ++ (gap ++ (quantifier ++ ((list ++ [' ']) ++ ("FROM".toList ++ rest))))).drop
          (quantifier.length + gap.length + 6) =
        (list ++ [' ']) ++ ("FROM".toList ++ rest) := by
    rw [← List.append_assoc, ← List.append_assoc]
    refine List.drop_left' ?_
    have selectLength : "SELECT".toList.length = 6 := rfl
    rw [List.length_append, List.length_append, selectLength]
    omega
  rw [slice, remaining, Nat.add_sub_cancel]
  exact congrArg some (List.take_left' (by simp))

/-! ## Texts that begin with a quantifier -/

theorem IsClosed.of_append
    {left right : List Char}
    (closed : IsClosed (left ++ right))
    (leftClosed : IsClosed left) :
    IsClosed right := by
  rwa [IsClosed, after_append, leftClosed] at closed

/-- A text that begins with DISTINCT or ALL is blanks, this word and what follows it. -/
theorem StartsWithQuantifier.exists_append
    (closed : IsClosed text)
    (starts : StartsWithQuantifier text) :
    ∃ gap quantifier rest : List Char,
      text = gap ++ (quantifier ++ rest) ∧
        (∀ character ∈ gap, isBlank character = true) ∧
          IsQuantifier quantifier ∧
            (∀ first ∈ rest.head?, isWordCharacter first = false) ∧ IsClosed rest := by
  rcases starts with ⟨word, isFirst, keyword, blank⟩
  rcases exists_run_of_mem_wordsFrom (List.mem_of_mem_head? isFirst) with
    ⟨before, run, remaining, first, split, isStart, isRun, ends, rfl⟩
  rcases isClosed_of_marked_eq split with ⟨gapClosed, whole⟩
  rw [List.map_append] at whole
  have isQuantifier : IsQuantifier (first :: run.map Prod.fst) := by
    constructor
    case isName =>
      rw [isName, isStart, Bool.true_and, List.all_eq_true]
      intro character member
      rcases List.mem_map.1 member with ⟨entry, inRun, rfl⟩
      exact isRun entry inRun
    case isKeyword =>
      exact ((Bool.or_eq_true _ _).mp keyword).imp of_decide_eq_true of_decide_eq_true
  refine
    ⟨before.map Prod.fst, first :: run.map Prod.fst, remaining.map Prod.fst, whole, ?_,
      isQuantifier, ?_, ?_⟩
  · intro character member
    refine blank character ?_
    rw [whole, Nat.zero_add, ← List.length_map (f := Prod.fst), List.take_left]
    exact member
  · intro character isNext
    rw [List.head?_map, Option.mem_def, Option.map_eq_some_iff] at isNext
    rcases isNext with ⟨entry, isEntry, rfl⟩
    exact ends entry isEntry
  · rw [whole] at closed
    exact (closed.of_append gapClosed).of_append (scan_of_isName isQuantifier.isName).1

end SqlMapping.Query
