import SqlMapping.Proofs.Query.Written

/-!
# Ends of items

An implicit alias is the last run of characters between blanks, if that run is an identifier or a
name in quotes and something stands before it.

The main statements say what is found at the end of a text that ends with a bare run, that nothing
is found behind a dot or where no blank precedes the end, and how an item without the word AS is
named.
-/

namespace SqlMapping.Query

open Text

variable {front run name item : List Char} {mark : Char}

/-- A run of characters without a blank that ends in no quote mark. -/
structure IsBareRun (run : List Char) : Prop where
  notEmpty : run ≠ []
  isVisible : ∀ character ∈ run, isBlank character = false
  notQuoted : ∀ last ∈ run.getLast?, ¬ IsQuoteMark last

namespace IsBareRun

theorem of_isName (isNameHere : isName name = true) : IsBareRun name where
  notEmpty := by
    rintro rfl
    cases isNameHere
  isVisible _ member := isBlank_of_isWordCharacter (isWordCharacter_of_isName isNameHere member)
  notQuoted last isLast := by
    intro isMark
    have continues := isWordCharacter_of_isName isNameHere (List.mem_of_getLast? isLast)
    have opens := closingMark?_of_isQuoteMark isMark
    rw [closingMark?_of_not_isStructural (not_isStructural_of_isWordCharacter continues)] at opens
    cases opens

/-- Visible characters in front belong to the run. -/
theorem append
    (bare : IsBareRun run)
    (isVisible : ∀ character ∈ front, isBlank character = false) :
    IsBareRun (front ++ run) where
  notEmpty := fun nothing => bare.notEmpty (List.append_eq_nil_iff.1 nothing).2
  isVisible character member :=
    (List.mem_append.1 member).elim (isVisible character) (bare.isVisible character)
  notQuoted := by
    rw [List.getLast?_append_of_ne_nil front bare.notEmpty]
    exact bare.notQuoted

end IsBareRun

/-- The run at the end of a text ends it, and is no line break. -/
theorem getLast?_append_ne_lineBreak
    (notEmpty : run ≠ [])
    (visible : ∀ last ∈ run.getLast?, isBlank last = false)
    (front : List Char) :
    (front ++ run).getLast? ≠ some '\n' := by
  rw [List.getLast?_append_of_ne_nil front notEmpty]
  intro isBreak
  exact absurd (visible '\n' isBreak) (by decide)

/-- Reading a run of visible characters backward tells whether it is an identifier. -/
theorem isIdentifier_eq_of_reverse (run : List Char) :
    (run.reverse.all (fun character => character.isAlphanum || decide (character = '_'))
        && run.reverse.getLast?.any isWordStart) =
      isIdentifier run := by
  cases run with
  | nil => rfl
  | cons first rest =>
      rw [List.getLast?_reverse, List.head?_cons, Option.any_some, List.all_reverse,
        List.all_cons, isIdentifier]
      cases start : isWordStart first with
      | false => simp
      | true =>
          have continues := isIdentifierCharacter_of_isWordStart start
          rw [isIdentifierCharacter] at continues
          rw [continues, Bool.true_and, Bool.and_true, Bool.true_and]
          rfl

/-- At the end of a text that ends with a bare run, the run is found if it is an identifier. -/
theorem tail?_append_run
    (bare : IsBareRun run)
    (stops : ∀ last ∈ front.getLast?, isBlank last = true) :
    tail? (front ++ run) =
      if isIdentifier run = true ∧ front ≠ [] then some ⟨dropWhileEnd isBlank front, run⟩
      else none := by
  have noBreak :=
    getLast?_append_ne_lineBreak bare.notEmpty
      (fun last isLast => bare.isVisible last (List.mem_of_getLast? isLast)) front
  have visibleAlso : ∀ character ∈ run.reverse, (!isBlank character) = true := by
    intro character member
    rw [bare.isVisible character (List.mem_reverse.1 member)]
    rfl
  have stopsAlso : ∀ first ∈ front.reverse.head?, isBlank first = true := by
    rwa [List.head?_reverse]
  have taken :
      (run.reverse ++ front.reverse).takeWhile (fun character => !isBlank character) =
        run.reverse := by
    rw [List.takeWhile_append_of_pos visibleAlso]
    cases behind : front.reverse with
    | nil => simp
    | cons blank others =>
        simp [stopsAlso blank (by rw [behind]; rfl)]
  have dropped :
      (run.reverse ++ front.reverse).dropWhile (fun character => !isBlank character) =
        front.reverse := by
    rw [List.dropWhile_append_of_pos visibleAlso]
    cases behind : front.reverse with
    | nil => rfl
    | cons blank others =>
        simp [stopsAlso blank (by rw [behind]; rfl)]
  have isRead := isIdentifier_eq_of_reverse run
  rw [tail?, if_neg noBreak, List.reverse_append]
  cases reversed : run.reverse with
  | nil => exact absurd (List.reverse_eq_nil_iff.1 reversed) bare.notEmpty
  | cons last before =>
      have notMark : ¬ (last = '"' || last = '\x60') = true := by
        rw [isQuoteMark_iff]
        refine bare.notQuoted last ?_
        rw [← List.head?_reverse, reversed]
        rfl
      rw [reversed] at taken dropped isRead
      rw [List.cons_append] at taken dropped ⊢
      dsimp only
      rw [if_neg notMark, taken, dropped, isRead]
      cases identifier : isIdentifier run with
      | false => simp
      | true =>
          cases behind : front.reverse with
          | nil =>
              rw [List.reverse_eq_nil_iff.1 behind]
              simp
          | cons blank others =>
              have isBlankHere : isBlank blank = true := stopsAlso blank (by rw [behind]; rfl)
              have notNothing : front ≠ [] := by
                rintro rfl
                cases behind
              have isRun : (last :: before).reverse = run := by
                rw [← reversed, List.reverse_reverse]
              simp only [isBlankHere, notNothing, isRun, dropWhileEnd, behind, ne_eq,
                not_false_eq_true, and_self, if_true]

/-- A text is what ends with a blank, or nothing, followed by visible characters. -/
theorem exists_append_visible (characters : List Char) :
    ∃ front run : List Char,
      characters = front ++ run ∧ (∀ character ∈ run, isBlank character = false) ∧
        ∀ last ∈ front.getLast?, isBlank last = true := by
  induction characters with
  | nil => exact ⟨[], [], rfl, by simp, by simp⟩
  | cons character rest inductionHypothesis =>
      rcases inductionHypothesis with ⟨front, run, rfl, visible, stops⟩
      cases front with
      | cons first others =>
          refine ⟨character :: first :: others, run, rfl, visible, ?_⟩
          rwa [List.getLast?_cons_cons]
      | nil =>
          by_cases blank : isBlank character = true
          · exact ⟨[character], run, rfl, visible, by simpa using blank⟩
          · refine ⟨[], character :: run, rfl, List.forall_mem_cons.2 ⟨?_, visible⟩, by simp⟩
            exact Bool.eq_false_iff.2 blank

/-- No alias is found where no blank precedes the end, or where the end is no identifier. -/
theorem tail?_append_eq_none
    (bare : IsBareRun run)
    (apart : front = [] ∨ ∃ character ∈ run, isIdentifierCharacter character = false) :
    tail? (front ++ run) = none := by
  rcases exists_append_visible front with ⟨before, more, rfl, moreVisible, stops⟩
  rw [List.append_assoc, tail?_append_run (bare.append moreVisible) stops, if_neg]
  rintro ⟨identifier, somethingBefore⟩
  rcases apart with nothing | ⟨character, member, other⟩
  · exact somethingBefore (List.append_eq_nil_iff.1 nothing).1
  · exact not_mem_of_isIdentifier identifier other (List.mem_append_right more member)

/-- A name in quotes is no alias unless a blank precedes it. -/
theorem tail?_append_enclosed
    (isMark : IsQuoteMark mark)
    (absent : mark ∉ name)
    (joined : ∀ last ∈ front.getLast?, isBlank last = false) :
    tail? (front ++ mark :: (name ++ [mark])) = none := by
  have noBreak : (front ++ mark :: (name ++ [mark])).getLast? ≠ some '\n' := by
    refine getLast?_append_ne_lineBreak (by simp) (fun last isLast => ?_) front
    obtain rfl : mark = last := by simpa [List.getLast?_cons] using isLast
    exact isBlank_of_isQuoteMark isMark
  have reversed : (mark :: (name ++ [mark])).reverse = mark :: (name.reverse ++ [mark]) := by
    simp
  have absentAlso : mark ∉ name.reverse := by rwa [List.mem_reverse]
  rw [tail?, if_neg noBreak, List.reverse_append, reversed, List.cons_append, List.append_assoc,
    List.singleton_append]
  dsimp only
  rw [if_pos (isQuoteMark_iff.2 isMark), dropWhile_ne_mark absentAlso,
    takeWhile_ne_mark absentAlso]
  dsimp only
  cases nothing : name.reverse.isEmpty with
  | true => rfl
  | false =>
      cases behind : front.reverse with
      | nil => rfl
      | cons last others =>
          have visible : isBlank last = false := by
            refine joined last ?_
            rw [← List.head?_reverse, behind]
            rfl
          simp [visible]

/-! ## Items without AS -/

/-- An item that is no star and in which the scanner sees no word AS. -/
structure IsUnaliased (item : List Char) : Prop where
  notStar : ¬ (item = star || ['.', '*'].isSuffixOf item) = true
  hasNoAs : (topLevelWords item).filter (fun word => word.is "AS") = []

namespace IsUnaliased

/-- A text that ends with a written name is no star. -/
theorem of_written
    {text : List Char}
    (written : Written name text)
    (hasNoAs : ∀ word ∈ topLevelWords (front ++ text), word.is "AS" = false) :
    IsUnaliased (front ++ text) where
  notStar := written.not_star_append front
  hasNoAs := by
    rw [List.filter_eq_nil_iff]
    intro word member
    rw [hasNoAs word member]
    exact Bool.false_ne_true

/-- An item that ends with an implicit alias is named by it. -/
theorem itemNameOf_of_implicitAlias?
    (unaliased : IsUnaliased item)
    (found : implicitAlias? item = some name)
    (postgres : Bool) :
    itemNameOf postgres item = .ok (nameOf name) := by
  rw [itemNameOf, if_neg unaliased.notStar, unaliased.hasNoAs]
  dsimp only [List.getLast?_nil]
  rw [found]

/-- An item without any alias is named as an expression. -/
theorem itemNameOf_of_expression
    (unaliased : IsUnaliased item)
    (nothing : implicitAlias? item = none)
    (postgres : Bool) :
    itemNameOf postgres item = expressionName postgres (item.length + 1) item := by
  rw [itemNameOf, if_neg unaliased.notStar, unaliased.hasNoAs]
  dsimp only [List.getLast?_nil]
  rw [nothing]

end IsUnaliased

end SqlMapping.Query
