import Mathlib.Data.List.Basic
import SqlMapping.Query.SelectItems

/-!
# Scanning joined texts

A text that leaves no quote and no parenthesis open can be scanned on its own: what follows it
is marked as if it stood alone, and so are the words of both parts unless a word runs across
the boundary between them.

The main statements give what is seen of two texts that are put together, their words and the
pieces between their commas, and cut a text at a comma between two parts.
-/

namespace SqlMapping.Query

variable {left right : List Char}

/-! ## Marks -/

/-- The characters of a text with whether they are seen at the top level. -/
def marked (state : ScanState) (characters : List Char) : List (Char × Bool) :=
  characters.zip (topLevel state characters)

/-- A text that leaves no quote and no parenthesis open. -/
def IsClosed (characters : List Char) : Prop :=
  ({} : ScanState).after characters = {}

@[simp]
theorem after_nil (state : ScanState) : state.after [] = state := rfl

@[simp]
theorem after_cons (state : ScanState) (character : Char) (rest : List Char) :
    state.after (character :: rest) = (state.next character).after rest := rfl

@[simp]
theorem after_append (state : ScanState) (left right : List Char) :
    state.after (left ++ right) = (state.after left).after right := by
  simp [ScanState.after]

@[simp]
theorem marked_nil (state : ScanState) : marked state [] = [] := rfl

@[simp]
theorem marked_cons (state : ScanState) (character : Char) (rest : List Char) :
    marked state (character :: rest) =
      (character, state.sees character) :: marked (state.next character) rest := rfl

/-- The second of two texts is marked from where the first one ends. -/
theorem marked_append (state : ScanState) (left right : List Char) :
    marked state (left ++ right) = marked state left ++ marked (state.after left) right := by
  rw [marked, topLevel_append, List.zip_append (length_topLevel state left).symm]
  rfl

@[simp]
theorem length_marked (state : ScanState) (characters : List Char) :
    (marked state characters).length = characters.length := by
  simp [marked]

@[simp]
theorem map_fst_marked (state : ScanState) (characters : List Char) :
    (marked state characters).map Prod.fst = characters := by
  rw [marked, List.map_fst_zip (Nat.le_of_eq (length_topLevel state characters).symm)]

namespace IsClosed

theorem nil : IsClosed [] := rfl

theorem append (leftClosed : IsClosed left) (rightClosed : IsClosed right) :
    IsClosed (left ++ right) := by
  rw [IsClosed, after_append, leftClosed, rightClosed]

/-- What follows a closed text is marked as if it stood alone. -/
theorem marked_append (closed : IsClosed left) (right : List Char) :
    marked {} (left ++ right) = marked {} left ++ marked {} right := by
  rw [Query.marked_append, closed]

end IsClosed

/-! ## What is seen -/

/-- What is seen of a text, at its positions. -/
theorem mem_topLevelSpans_iff
    {text : List Char}
    {span : Nat × Char} :
    span ∈ topLevelSpans text ↔ (marked {} text)[span.1]? = some (span.2, true) := by
  show span ∈ (marked {} text).zipIdx.filterMap _ ↔ _
  rw [List.mem_filterMap]
  constructor
  · rintro ⟨⟨⟨character, visible⟩, position⟩, isEntry, isSpan⟩
    cases visible
    · cases isSpan
    · cases isSpan
      exact List.mem_zipIdx_iff_getElem?.1 isEntry
  · intro isEntry
    exact ⟨((span.2, true), span.1), List.mem_zipIdx_iff_getElem?.2 isEntry, rfl⟩

theorem lt_length_of_mem_topLevelSpans
    {text : List Char}
    {span : Nat × Char}
    (member : span ∈ topLevelSpans text) :
    span.1 < text.length := by
  rcases List.getElem?_eq_some_iff.1 (mem_topLevelSpans_iff.1 member) with ⟨bound, -⟩
  rwa [length_marked] at bound

/-- What is hidden shows nothing. -/
theorem topLevelSpans_of_hidden
    {text : List Char}
    (hidden : ∀ entry ∈ marked {} text, entry.2 = false) :
    topLevelSpans text = [] := by
  rw [List.eq_nil_iff_forall_not_mem]
  intro span member
  cases hidden (span.2, true) (List.mem_of_getElem? (mem_topLevelSpans_iff.1 member))

/-- What is seen of a closed text and of what follows it, each as if it stood alone. -/
theorem topLevelSpans_append (closed : IsClosed left) (right : List Char) :
    topLevelSpans (left ++ right) =
      topLevelSpans left ++ (topLevelSpans right).map (Prod.map (· + left.length) id) := by
  show (marked {} (left ++ right)).zipIdx.filterMap _ =
    (marked {} left).zipIdx.filterMap _ ++ ((marked {} right).zipIdx.filterMap _).map _
  rw [closed.marked_append, List.zipIdx_append, List.filterMap_append, length_marked,
    Nat.add_comm, ← List.map_snd_add_zipIdx_eq_zipIdx, List.filterMap_map, List.map_filterMap]
  congr 2
  funext ⟨⟨character, visible⟩, position⟩
  cases visible
  · rfl
  · rfl

/-! ## Words -/

/-- A word at a position that is farther by an offset. -/
def Word.shift (offset : Nat) (word : Word) : Word :=
  ⟨word.start + offset, word.stop + offset, word.upper⟩

@[simp]
theorem Word.is_shift (offset : Nat) (word : Word) (keyword : String) :
    (word.shift offset).is keyword = word.is keyword := rfl

@[simp]
theorem Word.start_shift (offset : Nat) (word : Word) :
    (word.shift offset).start = word.start + offset := rfl

@[simp]
theorem Word.stop_shift (offset : Nat) (word : Word) :
    (word.shift offset).stop = word.stop + offset := rfl

@[simp]
theorem Word.shift_shift (first second : Nat) (word : Word) :
    (word.shift first).shift second = word.shift (first + second) := by
  simp [Word.shift, Nat.add_assoc]

/-- No word runs from one text into the next one or is the rest of a name there. -/
def Separated (left right : List Char) : Prop :=
  (∀ last ∈ left.getLast?, joinsWord last = false) ∨
    ∀ first ∈ right.head?, isWordCharacter first = false

theorem isWordCharacter_of_isWordStart
    {character : Char}
    (start : isWordStart character = true) :
    isWordCharacter character = true := by
  have parts : character.isAlpha = true ∨ character = '_' := by simpa [isWordStart] using start
  rcases parts with alpha | rfl
  · simp [isWordCharacter, Char.isAlphanum, alpha]
  · decide

theorem toNat_of_isAlphanum
    {character : Char}
    (alphanumeric : character.isAlphanum = true) :
    (48 ≤ character.toNat ∧ character.toNat ≤ 57) ∨
      (65 ≤ character.toNat ∧ character.toNat ≤ 90) ∨
        (97 ≤ character.toNat ∧ character.toNat ≤ 122) := by
  unfold Char.isAlphanum Char.isAlpha Char.isUpper Char.isLower Char.isDigit at alphanumeric
  simp only [Bool.or_eq_true, Bool.and_eq_true, decide_eq_true_eq, UInt32.le_iff_toNat_le,
    ge_iff_le] at alphanumeric
  change ((65 ≤ character.toNat ∧ character.toNat ≤ 90) ∨
    (97 ≤ character.toNat ∧ character.toNat ≤ 122)) ∨
    (48 ≤ character.toNat ∧ character.toNat ≤ 57) at alphanumeric
  omega

/-- A table that begins with the ranges of the ASCII digits and letters holds them. -/
theorem inRanges_of_ascii
    {code : Nat}
    (rest : List (Nat × Nat))
    (bounds :
      (48 ≤ code ∧ code ≤ 57) ∨ (65 ≤ code ∧ code ≤ 90) ∨ (97 ≤ code ∧ code ≤ 122)) :
    Text.inRanges ((48, 57) :: (65, 90) :: (97, 122) :: rest) code = true := by
  rw [Text.inRanges, Text.inRanges, Text.inRanges]
  split_ifs <;> first | rfl | omega

theorem isAlphanumeric_of_isAlphanum
    {character : Char}
    (alphanumeric : character.isAlphanum = true) :
    Text.isAlphanumeric character = true :=
  inRanges_of_ascii (Text.alphanumericRanges.drop 3) (toNat_of_isAlphanum alphanumeric)

/-- What continues a word also joins to it what follows. -/
theorem joinsWord_of_isWordCharacter
    {character : Char}
    (continues : isWordCharacter character = true) :
    joinsWord character = true := by
  have parts : character.isAlphanum = true ∨ character = '_' ∨ character = '$' := by
    simpa [isWordCharacter, or_assoc] using continues
  rcases parts with alphanumeric | rfl | rfl
  · simp [joinsWord, isAlphanumeric_of_isAlphanum alphanumeric]
  · simp [joinsWord]
  · simp [joinsWord]

/-- Whether a text, or what precedes it if it is empty, joins the word that follows. -/
def joinedAfter (joined : Bool) (entries : List (Char × Bool)) : Bool :=
  entries.foldl (fun _ entry => joinsWord entry.1) joined

@[simp]
theorem joinedAfter_nil (joined : Bool) : joinedAfter joined [] = joined := rfl

@[simp]
theorem joinedAfter_cons (joined : Bool) (entry : Char × Bool) (rest : List (Char × Bool)) :
    joinedAfter joined (entry :: rest) = joinedAfter (joinsWord entry.1) rest := rfl

@[simp]
theorem joinedAfter_append (joined : Bool) (left right : List (Char × Bool)) :
    joinedAfter joined (left ++ right) = joinedAfter (joinedAfter joined left) right := by
  simp [joinedAfter]

/-- A run of word characters joins what follows it. -/
theorem joinedAfter_of_run
    {run : List (Char × Bool)}
    (isRun : ∀ member ∈ run, isWordCharacter member.1 = true) :
    joinedAfter true run = true := by
  induction run with
  | nil => rfl
  | cons entry rest inductionHypothesis =>
      rw [joinedAfter_cons, joinsWord_of_isWordCharacter (isRun entry List.mem_cons_self)]
      exact
        inductionHypothesis fun member inRest => isRun member (List.mem_cons_of_mem entry inRest)

@[simp]
theorem wordsFrom_nil (position : Nat) (joined : Bool) :
    wordsFrom position joined [] = [] := by
  rw [wordsFrom]

theorem wordsFrom_cons_of_not_start
    {entry : Char × Bool}
    (other : isWordStart entry.1 = false)
    (position : Nat)
    (joined : Bool)
    (rest : List (Char × Bool)) :
    wordsFrom position joined (entry :: rest) =
      wordsFrom (position + 1) (joinsWord entry.1) rest := by
  rw [wordsFrom, if_neg (by simp [other])]

/-- The word that a run of word characters makes, if it is one. -/
theorem wordsFrom_cons_of_start
    {entry : Char × Bool}
    {run remaining : List (Char × Bool)}
    (start : isWordStart entry.1 = true)
    (isRun : ∀ member ∈ run, isWordCharacter member.1 = true)
    (ends : ∀ member ∈ remaining.head?, isWordCharacter member.1 = false)
    (position : Nat)
    (joined : Bool) :
    wordsFrom position joined (entry :: (run ++ remaining)) =
      (if entry.2 && !joined then
          [⟨position, position + 1 + run.length,
            (entry.1 :: run.map Prod.fst).map Char.toUpper⟩]
        else [])
        ++ wordsFrom (position + 1 + run.length) true remaining := by
  have taken : (run ++ remaining).takeWhile (fun entry => isWordCharacter entry.1) = run := by
    rw [List.takeWhile_append_of_pos isRun]
    cases remaining with
    | nil => simp
    | cons first others => simp [ends first rfl]
  have dropped :
      (run ++ remaining).dropWhile (fun entry => isWordCharacter entry.1) = remaining := by
    rw [List.dropWhile_append_of_pos isRun]
    cases remaining with
    | nil => rfl
    | cons first others => simp [ends first rfl]
  rw [wordsFrom, if_pos start, taken, dropped]
  by_cases visible : (entry.2 && !joined) = true
  · simp [visible]
  · simp [visible]

/-- Every text is a run of word characters and a rest that does not begin with one. -/
theorem exists_run (entries : List (Char × Bool)) :
    ∃ run remaining : List (Char × Bool),
      entries = run ++ remaining ∧
        (∀ member ∈ run, isWordCharacter member.1 = true) ∧
          ∀ member ∈ remaining.head?, isWordCharacter member.1 = false := by
  refine
    ⟨entries.takeWhile fun entry => isWordCharacter entry.1,
      entries.dropWhile fun entry => isWordCharacter entry.1,
      List.takeWhile_append_dropWhile.symm, ?_, ?_⟩
  · intro member taken
    exact List.all_eq_true.1 List.all_takeWhile member taken
  · intro member first
    have stops := List.head?_dropWhile_not (fun entry => isWordCharacter entry.1) entries
    rw [Option.mem_def.1 first] at stops
    simpa using stops

/-- Induction along the scan of words: character by character, but over a run at once. -/
theorem induction_wordsFrom
    {motive : List (Char × Bool) → Prop}
    (nil : motive [])
    (other :
      ∀ (entry : Char × Bool) (rest : List (Char × Bool)),
        isWordStart entry.1 = false → motive rest → motive (entry :: rest))
    (word :
      ∀ (entry : Char × Bool) (run remaining : List (Char × Bool)),
        isWordStart entry.1 = true →
          (∀ member ∈ run, isWordCharacter member.1 = true) →
            (∀ member ∈ remaining.head?, isWordCharacter member.1 = false) →
              motive remaining → motive (entry :: (run ++ remaining)))
    (entries : List (Char × Bool)) :
    motive entries := by
  induction size : entries.length using Nat.strongRecOn generalizing entries with
  | ind size inductionHypothesis =>
      subst size
      cases entries with
      | nil => exact nil
      | cons entry rest =>
          cases start : isWordStart entry.1 with
          | false =>
              exact other entry rest start (inductionHypothesis rest.length (by simp) rest rfl)
          | true =>
              rcases exists_run rest with ⟨run, remaining, rfl, isRun, ends⟩
              have shorter : remaining.length < (entry :: (run ++ remaining)).length := by
                simp only [List.length_cons, List.length_append]
                omega
              exact word entry run remaining start isRun ends
                (inductionHypothesis remaining.length shorter remaining rfl)

/-- The words of a text do not depend on where it begins. -/
theorem wordsFrom_add
    (offset position : Nat)
    (joined : Bool)
    (entries : List (Char × Bool)) :
    wordsFrom (position + offset) joined entries =
      (wordsFrom position joined entries).map (Word.shift offset) := by
  induction entries using induction_wordsFrom generalizing position joined with
  | nil => simp
  | other entry rest start inductionHypothesis =>
      rw [wordsFrom_cons_of_not_start start, wordsFrom_cons_of_not_start start,
        ← inductionHypothesis, Nat.add_right_comm]
  | word entry run remaining start isRun ends inductionHypothesis =>
      have later :
          position + offset + 1 + run.length = position + 1 + run.length + offset := by
        omega
      rw [wordsFrom_cons_of_start start isRun ends, wordsFrom_cons_of_start start isRun ends,
        later, inductionHypothesis, List.map_append]
      congr 1
      split_ifs
      · rfl
      · rfl

/-- What is seen nowhere at the top level has no words. -/
theorem wordsFrom_of_hidden
    {entries : List (Char × Bool)}
    (hidden : ∀ entry ∈ entries, entry.2 = false)
    (position : Nat)
    (joined : Bool) :
    wordsFrom position joined entries = [] := by
  induction entries using induction_wordsFrom generalizing position joined with
  | nil => exact wordsFrom_nil position joined
  | other entry rest start inductionHypothesis =>
      rw [wordsFrom_cons_of_not_start start]
      exact inductionHypothesis (fun member inRest => hidden member (by simp [inRest])) _ _
  | word entry run remaining start isRun ends inductionHypothesis =>
      have notSeen : entry.2 = false := hidden entry List.mem_cons_self
      rw [wordsFrom_cons_of_start start isRun ends, notSeen,
        inductionHypothesis fun member inRest => hidden member (by simp [inRest])]
      rfl

/-- Where no word can begin at once, nothing is joined. -/
theorem wordsFrom_of_ends
    {entries : List (Char × Bool)}
    (ends : ∀ member ∈ entries.head?, isWordCharacter member.1 = false)
    (position : Nat)
    (joined : Bool) :
    wordsFrom position joined entries = wordsFrom position false entries := by
  cases entries with
  | nil => simp
  | cons entry rest =>
      have notStart : isWordStart entry.1 = false := by
        by_contra isStart
        have continues := isWordCharacter_of_isWordStart (Bool.of_not_eq_false isStart)
        rw [ends entry rfl] at continues
        cases continues
      rw [wordsFrom_cons_of_not_start notStart, wordsFrom_cons_of_not_start notStart]

/-- The words of two texts that are put together, unless a word runs across the boundary. -/
theorem wordsFrom_append
    {left right : List (Char × Bool)}
    (separate :
      (∀ last ∈ left.getLast?, isWordCharacter last.1 = false) ∨
        ∀ first ∈ right.head?, isWordCharacter first.1 = false)
    (position : Nat)
    (joined : Bool) :
    wordsFrom position joined (left ++ right) =
      wordsFrom position joined left
        ++ wordsFrom (position + left.length) (joinedAfter joined left) right := by
  induction left using induction_wordsFrom generalizing position joined with
  | nil => simp
  | other entry rest start inductionHypothesis =>
      have restSeparate :
          (∀ last ∈ rest.getLast?, isWordCharacter last.1 = false) ∨
            ∀ first ∈ right.head?, isWordCharacter first.1 = false := by
        refine separate.imp_left fun ends last inRest => ends last ?_
        cases rest with
        | nil => cases inRest
        | cons second others => rwa [List.getLast?_cons_cons]
      rw [List.cons_append, wordsFrom_cons_of_not_start start, wordsFrom_cons_of_not_start start,
        inductionHypothesis restSeparate, joinedAfter_cons, List.length_cons,
        Nat.add_assoc position, Nat.add_comm 1]
  | word entry run remaining start isRun ends inductionHypothesis =>
      have continues := isWordCharacter_of_isWordStart start
      cases remaining with
      | nil =>
          -- The text ends in a word, so that only what follows can end it.
          have rightEnds : ∀ first ∈ right.head?, isWordCharacter first.1 = false := by
            refine separate.resolve_left fun leftEnds => ?_
            obtain ⟨last, isLast⟩ : ∃ last, last ∈ (entry :: (run ++ [])).getLast? := by
              simp [List.getLast?_cons]
            have notWord := leftEnds last isLast
            have member : last ∈ entry :: run := by
              simpa using List.mem_of_getLast? isLast
            rcases List.mem_cons.1 member with rfl | inRun
            · rw [continues] at notWord
              cases notWord
            · rw [isRun last inRun] at notWord
              cases notWord
          have flag : joinedAfter joined (entry :: (run ++ [])) = true := by
            rw [List.append_nil, joinedAfter_cons, joinsWord_of_isWordCharacter continues]
            exact joinedAfter_of_run isRun
          rw [flag, List.cons_append, List.append_nil,
            wordsFrom_cons_of_start start isRun rightEnds]
          have nothing :
              ∀ member ∈ ([] : List (Char × Bool)).head?, isWordCharacter member.1 = false := by
            simp
          have alone := wordsFrom_cons_of_start start isRun nothing position joined
          rw [List.append_nil] at alone
          rw [alone]
          simp [Nat.add_comm, Nat.add_left_comm]
      | cons second others =>
          have laterSeparate :
              (∀ last ∈ (second :: others).getLast?, isWordCharacter last.1 = false) ∨
                ∀ first ∈ right.head?, isWordCharacter first.1 = false := by
            refine separate.imp_left fun leftEnds last isLast => leftEnds last ?_
            rw [List.getLast?_cons, List.getLast?_append_cons, Option.mem_def.1 isLast]
            rfl
          have flag :
              joinedAfter joined (entry :: (run ++ second :: others)) =
                joinedAfter true (second :: others) := by
            simp
          have endsAlso :
              ∀ member ∈ (second :: others ++ right).head?,
                isWordCharacter member.1 = false := ends
          rw [flag, List.cons_append, List.append_assoc,
            wordsFrom_cons_of_start start isRun endsAlso,
            wordsFrom_cons_of_start start isRun ends, inductionHypothesis laterSeparate,
            List.append_assoc]
          congr 3
          simp only [List.length_cons, List.length_append]
          omega

/-- A text does not join the word that follows it if its last character does not. -/
theorem joinedAfter_of_getLast?
    {entries : List (Char × Bool)}
    (ends : ∀ last ∈ entries.getLast?, joinsWord last.1 = false) :
    joinedAfter false entries = false := by
  rcases List.eq_nil_or_concat entries with rfl | ⟨before, last, rfl⟩
  · rfl
  · simpa using ends last (by simp)

theorem getLast?_marked
    {characters : List Char}
    {last : Char × Bool}
    (isLast : last ∈ (marked {} characters).getLast?) :
    last.1 ∈ characters.getLast? := by
  have mapped := congrArg (Option.map Prod.fst) (Option.mem_def.1 isLast)
  rwa [← List.getLast?_map, map_fst_marked] at mapped

theorem head?_marked
    {characters : List Char}
    {first : Char × Bool}
    (isFirst : first ∈ (marked {} characters).head?) :
    first.1 ∈ characters.head? := by
  have mapped := congrArg (Option.map Prod.fst) (Option.mem_def.1 isFirst)
  rwa [← List.head?_map, map_fst_marked] at mapped

namespace Separated

/-- Nothing runs into a text that does not begin like the rest of a word. -/
theorem cons
    {character : Char}
    (other : isWordCharacter character = false)
    (left right : List Char) :
    Separated left (character :: right) := by
  refine Or.inr fun first isFirst => ?_
  cases isFirst
  exact other

/-- Nothing runs out of a text that ends like neither a name nor a number. -/
theorem append_singleton
    {character : Char}
    (other : joinsWord character = false)
    (left right : List Char) :
    Separated (left ++ [character]) right := by
  refine Or.inl fun last isLast => ?_
  rw [List.getLast?_append, List.getLast?_singleton, Option.mem_def] at isLast
  cases isLast
  exact other

end Separated

/-- The words of a closed text and of what follows it, each as if it stood alone. -/
theorem topLevelWords_append
    (closed : IsClosed left)
    (separate : Separated left right) :
    topLevelWords (left ++ right) =
      topLevelWords left ++ (topLevelWords right).map (Word.shift left.length) := by
  show wordsFrom 0 false (marked {} (left ++ right)) =
    wordsFrom 0 false (marked {} left)
      ++ (wordsFrom 0 false (marked {} right)).map (Word.shift left.length)
  have marksSeparate :
      (∀ last ∈ (marked {} left).getLast?, isWordCharacter last.1 = false) ∨
        ∀ first ∈ (marked {} right).head?, isWordCharacter first.1 = false := by
    refine separate.imp (fun ends last isLast => ?_) fun ends first isFirst => ?_
    · have unjoined := ends last.1 (getLast?_marked isLast)
      by_contra continues
      rw [joinsWord_of_isWordCharacter (Bool.of_not_eq_false continues)] at unjoined
      cases unjoined
    · exact ends first.1 (head?_marked isFirst)
  rw [closed.marked_append, wordsFrom_append marksSeparate, ← wordsFrom_add, length_marked]
  congr 1
  rcases separate with ends | ends
  · rw [joinedAfter_of_getLast? fun last isLast => ends last.1 (getLast?_marked isLast)]
  · exact wordsFrom_of_ends (fun first isFirst => ends first.1 (head?_marked isFirst)) _ _

/-! ## Texts before what is seen -/

theorem eq_of_sees
    {state : ScanState}
    {character : Char}
    (seen : state.sees character = true) :
    state = {} := by
  have parts : state.closing = none ∧ state.depth = 0 := by
    simp only [ScanState.sees, Bool.and_eq_true, Option.isNone_iff_eq_none, decide_eq_true_eq,
      ne_eq] at seen
    exact ⟨seen.1.1.1.1, seen.2⟩
  cases state
  simp only at parts
  rw [parts.1, parts.2]

/-- What stands before a character that is seen leaves nothing open. -/
theorem isClosed_of_marked_eq
    {text : List Char}
    {before after : List (Char × Bool)}
    {character : Char}
    (split : marked {} text = before ++ (character, true) :: after) :
    IsClosed (before.map Prod.fst) ∧
      text = before.map Prod.fst ++ character :: after.map Prod.fst := by
  have whole : text = before.map Prod.fst ++ character :: after.map Prod.fst := by
    have unmarked := congrArg (List.map Prod.fst) split
    rwa [map_fst_marked, List.map_append, List.map_cons] at unmarked
  refine ⟨?_, whole⟩
  rw [whole, marked_append] at split
  have rightSplit := (List.append_inj split (by simp)).2
  rw [marked_cons, List.cons.injEq, Prod.mk.injEq] at rightSplit
  exact eq_of_sees rightSplit.1.2

/-- A word is a run of word characters of which the first is seen. -/
theorem exists_run_of_mem_wordsFrom
    {entries : List (Char × Bool)}
    {position : Nat}
    {joined : Bool}
    {word : Word}
    (member : word ∈ wordsFrom position joined entries) :
    ∃ (before run remaining : List (Char × Bool)) (first : Char),
      entries = before ++ (first, true) :: (run ++ remaining) ∧
        isWordStart first = true ∧
          (∀ entry ∈ run, isWordCharacter entry.1 = true) ∧
            (∀ entry ∈ remaining.head?, isWordCharacter entry.1 = false) ∧
              word =
                ⟨position + before.length, position + before.length + 1 + run.length,
                  (first :: run.map Prod.fst).map Char.toUpper⟩ := by
  induction entries using induction_wordsFrom generalizing position joined with
  | nil =>
      rw [wordsFrom_nil] at member
      cases member
  | other entry rest start inductionHypothesis =>
      rw [wordsFrom_cons_of_not_start start] at member
      rcases inductionHypothesis member with
        ⟨before, run, remaining, first, rfl, isStart, isRun, ends, rfl⟩
      refine ⟨entry :: before, run, remaining, first, rfl, isStart, isRun, ends, ?_⟩
      rw [List.length_cons, Nat.add_comm before.length, ← Nat.add_assoc]
  | word entry run remaining start isRun ends inductionHypothesis =>
      rw [wordsFrom_cons_of_start start isRun ends] at member
      rcases List.mem_append.1 member with isFirst | isLater
      · split_ifs at isFirst with visible
        · have seen : entry.2 = true := ((Bool.and_eq_true _ _).mp visible).1
          refine ⟨[], run, remaining, entry.1, by rw [← seen]; rfl, start, isRun, ends, ?_⟩
          exact List.mem_singleton.1 isFirst
        · cases isFirst
      · rcases inductionHypothesis isLater with
          ⟨before, laterRun, later, first, rfl, isStart, isLaterRun, laterEnds, rfl⟩
        refine
          ⟨entry :: (run ++ before), laterRun, later, first, by simp, isStart, isLaterRun,
            laterEnds, ?_⟩
        have position_eq :
            position + 1 + run.length + before.length =
              position + (entry :: (run ++ before)).length := by
          rw [List.length_cons, List.length_append]
          omega
        rw [position_eq]

/-- What stands before a word leaves nothing open. -/
theorem isClosed_take_of_mem_topLevelWords
    {text : List Char}
    {word : Word}
    (member : word ∈ topLevelWords text) :
    IsClosed (text.take word.start) := by
  rcases exists_run_of_mem_wordsFrom member with
    ⟨before, run, remaining, first, split, -, -, -, rfl⟩
  rcases isClosed_of_marked_eq split with ⟨closed, whole⟩
  rw [Nat.zero_add, whole, ← List.length_map (f := Prod.fst), List.take_left]
  exact closed

/-! ## Cutting at commas -/

/-- A text without a comma at the top level. -/
def HasNoComma (characters : List Char) : Prop :=
  (',', true) ∉ marked {} characters

instance : DecidablePred HasNoComma := fun characters =>
  inferInstanceAs (Decidable ((',', true) ∉ marked {} characters))

/-- A character that is no comma at the top level goes to the first piece. -/
theorem cutAtCommas_cons
    {entry : Char × Bool}
    {rest : List (Char × Bool)}
    {first : List Char}
    {others : List (List Char)}
    (other : (',', true) ≠ entry)
    (pieces : cutAtCommas rest = first :: others) :
    cutAtCommas (entry :: rest) = (entry.1 :: first) :: others := by
  have isOther : (entry.2 && entry.1 = ',') = false := by
    by_contra isComma
    obtain ⟨visible, comma⟩ : entry.2 = true ∧ entry.1 = ',' := by simpa using isComma
    exact other (Prod.ext comma.symm visible.symm)
  rw [cutAtCommas, if_neg (by simp [isOther]), pieces]

theorem cutAtCommas_of_not_mem
    {entries : List (Char × Bool)}
    (noComma : (',', true) ∉ entries) :
    cutAtCommas entries = [entries.map Prod.fst] := by
  induction entries with
  | nil => rfl
  | cons entry rest inductionHypothesis =>
      rw [List.mem_cons, not_or] at noComma
      exact cutAtCommas_cons noComma.1 (inductionHypothesis noComma.2)

@[simp]
theorem cutAtCommas_comma_cons (rest : List (Char × Bool)) :
    cutAtCommas ((',', true) :: rest) = [] :: cutAtCommas rest := by
  simp [cutAtCommas]

theorem cutAtCommas_ne_nil (entries : List (Char × Bool)) : cutAtCommas entries ≠ [] := by
  cases entries with
  | nil => simp [cutAtCommas]
  | cons entry rest =>
      rw [cutAtCommas]
      split
      · exact List.cons_ne_nil _ _
      · split
        · exact List.cons_ne_nil _ _
        · exact List.cons_ne_nil _ _

/-- The last piece of one text goes on in the first piece of the next one. -/
theorem cutAtCommas_append_of_pieces
    {left right : List (Char × Bool)}
    {before after : List (List Char)}
    {last first : List Char}
    (leftPieces : cutAtCommas left = before ++ [last])
    (rightPieces : cutAtCommas right = first :: after) :
    cutAtCommas (left ++ right) = before ++ (last ++ first) :: after := by
  induction left generalizing before last with
  | nil =>
      obtain ⟨rfl, rfl⟩ : before = [] ∧ last = [] := by
        simpa [cutAtCommas, List.singleton_eq_append_iff] using leftPieces
      exact rightPieces
  | cons entry rest inductionHypothesis =>
      by_cases isComma : (',', true) = entry
      · subst isComma
        rw [cutAtCommas_comma_cons] at leftPieces
        cases before with
        | nil => cases cutAtCommas_ne_nil rest (List.cons.inj leftPieces).2
        | cons piece others =>
            rw [List.cons_append, cutAtCommas_comma_cons, (List.cons.inj leftPieces).1,
              inductionHypothesis (List.cons.inj leftPieces).2]
            rfl
      · cases pieces : cutAtCommas rest with
        | nil => cases cutAtCommas_ne_nil rest pieces
        | cons piece others =>
            rw [cutAtCommas_cons isComma pieces] at leftPieces
            cases before with
            | nil =>
                obtain ⟨rfl, rfl⟩ : entry.1 :: piece = last ∧ others = [] := by
                  simpa using leftPieces
                have alone : cutAtCommas rest = [] ++ [piece] := pieces
                exact cutAtCommas_cons isComma (inductionHypothesis alone)
            | cons _ later =>
                obtain ⟨rfl, rfl⟩ := List.cons.inj leftPieces
                have several : cutAtCommas rest = (piece :: later) ++ [last] := pieces
                exact cutAtCommas_cons isComma (inductionHypothesis several)

/-- A text is cut at the first comma at its top level. -/
theorem cutAtCommas_append
    {entries : List (Char × Bool)}
    (noComma : (',', true) ∉ entries)
    (rest : List (Char × Bool)) :
    cutAtCommas (entries ++ (',', true) :: rest) =
      entries.map Prod.fst :: cutAtCommas rest := by
  have alone : cutAtCommas entries = [] ++ [entries.map Prod.fst] := cutAtCommas_of_not_mem noComma
  have joined := cutAtCommas_append_of_pieces alone (cutAtCommas_comma_cons rest)
  rwa [List.append_nil] at joined

end SqlMapping.Query
