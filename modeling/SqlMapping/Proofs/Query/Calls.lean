import SqlMapping.Proofs.Query.Entries

/-!
# Calls and cast operators

A call is a word and, perhaps after blanks, a parenthesis behind which the scanner sees nothing.  A
cast operator is a pair of colons that it sees.

The main statements say that the function is the only word of a call, that a call is neither a
column nor a cast, and that the first cast operator stands behind a text without colons.
-/

namespace SqlMapping.Query

open Text

variable {item word blanks arguments front characters : List Char}
variable {entries : List (Char × Bool)} {postgres : Bool}

/-! ## Cast operators -/

theorem exists_split_of_castPosition?
    {position found : Nat}
    (isFound : castPosition? position entries = some found) :
    ∃ before after : List (Char × Bool),
      entries = before ++ (':', true) :: after ∧ found = position + before.length := by
  induction entries generalizing position with
  | nil => cases isFound
  | cons first others inductionHypothesis =>
      cases others with
      | nil => cases isFound
      | cons second rest =>
          rw [castPosition?] at isFound
          split_ifs at isFound with isCast
          · cases isFound
            simp only [Bool.and_eq_true, decide_eq_true_eq] at isCast
            have isFirst : first = (':', true) := Prod.ext isCast.1.2 isCast.1.1.1
            exact ⟨[], second :: rest, by rw [isFirst]; rfl, rfl⟩
          · rcases inductionHypothesis isFound with ⟨before, after, split, later⟩
            refine ⟨first :: before, after, by rw [split]; rfl, ?_⟩
            rw [later, List.length_cons, Nat.add_assoc, Nat.add_comm 1]

theorem castPosition?_eq_none
    (absent : (':', true) ∉ entries)
    (position : Nat) :
    castPosition? position entries = none := by
  rw [Option.eq_none_iff_forall_ne_some]
  intro found isFound
  rcases exists_split_of_castPosition? isFound with ⟨before, after, rfl, -⟩
  exact absent (by simp)

/-- What is no colon is passed over. -/
theorem castPosition?_cons
    {entry : Char × Bool}
    (other : entry ≠ (':', true))
    (position : Nat)
    (rest : List (Char × Bool)) :
    castPosition? position (entry :: rest) = castPosition? (position + 1) rest := by
  cases rest with
  | nil => rfl
  | cons second others =>
      rw [castPosition?, if_neg]
      simp only [Bool.and_eq_true, decide_eq_true_eq]
      exact fun isCast => other (Prod.ext isCast.1.2 isCast.1.1.1)

theorem castPosition?_append
    (absent : (':', true) ∉ entries)
    (position : Nat)
    (rest : List (Char × Bool)) :
    castPosition? position (entries ++ (':', true) :: (':', true) :: rest) =
      some (position + entries.length) := by
  induction entries generalizing position with
  | nil => simp [castPosition?]
  | cons first others inductionHypothesis =>
      rw [List.mem_cons, not_or] at absent
      rw [List.cons_append, castPosition?_cons (Ne.symm absent.1), inductionHypothesis absent.2,
        List.length_cons, Nat.add_assoc, Nat.add_comm 1]

/-- The first cast operator stands behind a closed text without colons. -/
theorem castPosition?_marked
    (closed : IsClosed front)
    (absent : ':' ∉ front)
    (rest : List Char) :
    castPosition? 0 (marked {} (front ++ ("::".toList ++ rest))) = some front.length := by
  have notSeen : (':', true) ∉ marked {} front := by
    intro member
    have inFront := List.mem_map_of_mem (f := Prod.fst) member
    rw [map_fst_marked] at inFront
    exact absent inFront
  have colons :
      marked {} ("::".toList ++ rest) = (':', true) :: (':', true) :: marked {} rest := rfl
  rw [closed.marked_append, colons, castPosition?_append notSeen, Nat.zero_add, length_marked]

/-! ## Calls -/

/-- Inside a parenthesis that is not closed nothing is seen. -/
theorem hidden_of_not_closed
    (state : ScanState)
    (isInside : 0 < state.depth)
    (notClosed : ')' ∉ characters) :
    (∀ entry ∈ marked state characters, entry.2 = false) ∧
      0 < (state.after characters).depth := by
  induction characters generalizing state with
  | nil => exact ⟨by simp, isInside⟩
  | cons character rest inductionHypothesis =>
      rw [List.mem_cons, not_or] at notClosed
      have staysInside : 0 < (state.next character).depth := by
        unfold ScanState.next
        split
        · split_ifs
          all_goals exact isInside
        · split
          · exact isInside
          · split_ifs with opens closes
            · exact Int.lt_add_one_of_le (Int.le_of_lt isInside)
            · exact absurd closes.symm notClosed.1
            · exact isInside
      rcases inductionHypothesis _ staysInside notClosed.2 with ⟨hidden, isDeep⟩
      refine ⟨?_, isDeep⟩
      intro entry member
      rw [marked_cons] at member
      rcases List.mem_cons.1 member with rfl | inRest
      · by_contra seen
        have outside := eq_of_sees (Bool.of_not_eq_false seen)
        rw [outside] at isInside
        exact absurd isInside (by decide)
      · exact hidden entry inRest

/-- A call begins with the name of the function. -/
theorem exists_blanks_of_call?
    {function arguments : List Char}
    (isCall : call? item = some (function, arguments)) :
    ∃ blanks : List Char,
      item = function ++ (blanks ++ '(' :: arguments) ∧
        ∀ character ∈ blanks, isBlank character = true := by
  cases item with
  | nil => cases isCall
  | cons first rest =>
      rw [call?] at isCall
      split_ifs at isCall
      dsimp only at isCall
      split at isCall
      · rename_i others isOpen
        split_ifs at isCall
        cases isCall
        refine ⟨(rest.dropWhile isWordCharacter).takeWhile isBlank, ?_, fun character taken => ?_⟩
        · rw [← isOpen, List.takeWhile_append_dropWhile, List.cons_append,
            List.takeWhile_append_dropWhile]
        · exact List.all_eq_true.1 List.all_takeWhile character taken
      · cases isCall

theorem call?_eq_none (absent : '(' ∉ item) : call? item = none := by
  rw [Option.eq_none_iff_forall_ne_some]
  rintro ⟨function, arguments⟩ isCall
  rcases exists_blanks_of_call? isCall with ⟨blanks, rfl, -⟩
  exact absent (by simp)

/-- An item is a word and a parenthesis behind which nothing is seen. -/
structure IsCall (item word blanks arguments : List Char) : Prop where
  item_eq : item = word ++ (blanks ++ '(' :: arguments)
  isFunction : isName word = true
  isBlank_of_mem : ∀ character ∈ blanks, isBlank character = true
  isHidden : ∀ entry ∈ marked ⟨1, none⟩ arguments, entry.2 = false

namespace IsCall

/-- What follows the word neither continues nor joins it. -/
theorem ends (call : IsCall item word blanks arguments) :
    ∀ first ∈ (blanks ++ '(' :: arguments).head?,
      isWordCharacter first = false ∧ first ≠ '.' := by
  intro first isFirst
  cases blanks with
  | nil =>
      cases isFirst
      decide
  | cons blank others =>
      obtain rfl : blank = first := Option.some.inj isFirst
      have isBlankHere := call.isBlank_of_mem blank List.mem_cons_self
      refine ⟨isWordCharacter_of_isBlank isBlankHere, ?_⟩
      rintro rfl
      exact absurd isBlankHere (by decide)

/-- What stands before the parenthesis leaves nothing open. -/
theorem not_isStructural (call : IsCall item word blanks arguments) :
    ∀ character ∈ word ++ blanks, ¬ IsStructural character := by
  intro character member
  rcases List.mem_append.1 member with inWord | inBlanks
  · exact
      not_isStructural_of_isWordCharacter (isWordCharacter_of_isName call.isFunction inWord)
  · exact not_isStructural_of_isBlank (call.isBlank_of_mem character inBlanks)

/-- Only the word and the blanks after it are seen. -/
theorem marked_eq (call : IsCall item word blanks arguments) :
    marked {} item =
      (word ++ blanks).map (fun character => (character, true))
        ++ ('(', false) :: marked ⟨1, none⟩ arguments := by
  have plain := call.not_isStructural
  rw [call.item_eq, ← List.append_assoc, (scan_of_plain plain).1.marked_append,
    (scan_of_plain plain).2]
  rfl

/-- The function is the only word of a call. -/
theorem topLevelWords_eq (call : IsCall item word blanks arguments) :
    topLevelWords item = [⟨0, word.length, word.map Char.toUpper⟩] := by
  have argumentWords : topLevelWords ('(' :: arguments) = [] := by
    refine wordsFrom_of_hidden (fun entry member => ?_) 0 false
    have inMarked : entry ∈ marked {} ('(' :: arguments) := member
    rw [marked_cons] at inMarked
    rcases List.mem_cons.1 inMarked with rfl | inArguments
    · rfl
    · exact call.isHidden entry inArguments
  rw [call.item_eq,
    topLevelWords_append (scan_of_isName call.isFunction).1
      (Or.inr fun first isFirst => (call.ends first isFirst).1),
    topLevelWords_append (isClosed_of_isBlank call.isBlank_of_mem)
      (Separated.cons (by decide) blanks arguments),
    topLevelWords_of_isBlank call.isBlank_of_mem, argumentWords,
    topLevelWords_of_isName call.isFunction]
  rfl

theorem filter_is_eq_nil
    (call : IsCall item word blanks arguments)
    {keyword : String}
    (other : word.map Char.toUpper ≠ keyword.toList) :
    (topLevelWords item).filter (fun word => word.is keyword) = [] := by
  simp [call.topLevelWords_eq, Word.is, other]

/-- A call is no column. -/
theorem plainColumn?_eq_none (call : IsCall item word blanks arguments) :
    plainColumn? item = none := by
  have nothing : ∀ qualifier ∈ ([] : List (List Char)), ∃ own, Component own qualifier := by simp
  have goesOn : atEnd (blanks ++ '(' :: arguments) = false := by
    by_contra stops
    rw [Bool.not_eq_false, atEnd, Bool.or_eq_true, decide_eq_true_eq, decide_eq_true_eq] at stops
    have opens : '(' ∈ blanks ++ '(' :: arguments := by simp
    rcases stops with empty | lineBreak
    · rw [empty] at opens
      cases opens
    · rw [lineBreak] at opens
      exact absurd opens (by decide)
  have isNone :=
    plainColumn?_joinDots_append nothing (.bare call.isFunction) call.ends goesOn
  rwa [List.nil_append, joinDots, List.intercalate_singleton, ← call.item_eq] at isNone

/-- A call is no cast with an operator. -/
theorem castPosition?_eq_none (call : IsCall item word blanks arguments) :
    castPosition? 0 (marked {} item) = none := by
  refine Query.castPosition?_eq_none (fun member => ?_) 0
  rw [call.marked_eq, List.mem_append, List.mem_map, List.mem_cons] at member
  rcases member with ⟨character, inFront, isColon⟩ | isOpening | inHidden
  · obtain rfl : character = ':' := congrArg Prod.fst isColon
    rcases List.mem_append.1 inFront with inWord | inBlanks
    · exact absurd (isWordCharacter_of_isName call.isFunction inWord) (by decide)
    · exact absurd (call.isBlank_of_mem ':' inBlanks) (by decide)
  · cases isOpening
  · cases call.isHidden (':', true) inHidden

theorem call?_eq (call : IsCall item word blanks arguments) :
    call? item = some (word, arguments) := by
  have flags : topLevel {} item = (marked {} item).map Prod.snd :=
    (List.map_snd_zip (Nat.le_of_eq (length_topLevel {} item))).symm
  have nothingSeen :
      ((topLevel {} item).drop (item.length - arguments.length - 1)).any id = false := by
    have position : item.length - arguments.length - 1 = (word ++ blanks).length := by
      rw [call.item_eq]
      simp only [List.length_append, List.length_cons]
      omega
    rw [flags, call.marked_eq, position, List.map_append, List.map_map,
      List.drop_left' (by simp)]
    simpa using fun seen character member => call.isHidden (character, seen) member
  have isFunction := call.isFunction
  cases word with
  | nil => cases isFunction
  | cons first run =>
      have start : isWordStart first = true := ((Bool.and_eq_true _ _).mp isFunction).1
      have isRun : ∀ character ∈ run, isWordCharacter character = true := fun character member =>
        isWordCharacter_of_isName isFunction (List.mem_cons_of_mem first member)
      have ends : ∀ character ∈ (blanks ++ '(' :: arguments).head?,
          isWordCharacter character = false := fun character isFirst =>
        (call.ends character isFirst).1
      have isWord : item = first :: (run ++ (blanks ++ '(' :: arguments)) := call.item_eq
      have notOpen : ¬ isBlank '(' = true := by decide
      rw [isWord] at nothingSeen ⊢
      rw [call?, start, takeWhile_run isRun ends, dropWhile_run isRun ends,
        List.dropWhile_append_of_pos call.isBlank_of_mem, List.dropWhile_cons_of_neg notOpen]
      simp only [Bool.not_true, Bool.false_eq_true, if_false, nothingSeen]

end IsCall

end SqlMapping.Query
