import SqlMapping.Proofs.Query.SelectLists

/-!
# Written names

A name is written bare, if it is a word of its own, or between quote marks.  A word is all seen by
the scanner, and whatever stands between quote marks is hidden from it; the marks around a name are
dropped when the name is read.

The main statements say which word a written name is, that it is read back as the name, and that it
names the item whose alias it is.
-/

namespace SqlMapping.Query

open Text

/-- Whether a character continues an identifier. -/
def isIdentifierCharacter (character : Char) : Bool :=
  character.isAlphanum || character = '_'

/-- Whether a text is a letter or an underscore, and letters, digits and underscores after it. -/
def isIdentifier : List Char → Bool
  | [] => false
  | first :: rest => isWordStart first && rest.all isIdentifierCharacter

/-- Whether a text is a word to the scanner, which may have dollar signs after its first letter. -/
def isName : List Char → Bool
  | [] => false
  | first :: rest => isWordStart first && rest.all isWordCharacter

/-- Whether a character is one of the two marks that identifiers are quoted with. -/
def IsQuoteMark (mark : Char) : Prop :=
  mark = '"' ∨ mark = '\x60'

variable {name text item blanks : List Char} {mark : Char}

/-! ## Characters of identifiers -/

theorem isIdentifierCharacter_of_isWordStart
    {character : Char}
    (start : isWordStart character = true) :
    isIdentifierCharacter character = true := by
  have parts : character.isAlpha = true ∨ character = '_' := by simpa [isWordStart] using start
  rcases parts with alpha | rfl
  · simp [isIdentifierCharacter, Char.isAlphanum, alpha]
  · decide

/-- An identifier consists of its characters. -/
theorem isIdentifierCharacter_of_mem
    (identifier : isIdentifier name = true)
    {character : Char}
    (member : character ∈ name) :
    isIdentifierCharacter character = true := by
  cases name with
  | nil => cases member
  | cons first rest =>
      obtain ⟨start, others⟩ :
          isWordStart first = true ∧ rest.all isIdentifierCharacter = true := by
        simpa [isIdentifier] using identifier
      rcases List.mem_cons.1 member with rfl | inRest
      · exact isIdentifierCharacter_of_isWordStart start
      · exact List.all_eq_true.1 others character inRest

theorem isWordCharacter_of_isIdentifierCharacter
    {character : Char}
    (continues : isIdentifierCharacter character = true) :
    isWordCharacter character = true := by
  rw [isIdentifierCharacter] at continues
  simp [isWordCharacter, continues]

theorem toNat_of_isIdentifierCharacter
    {character : Char}
    (continues : isIdentifierCharacter character = true) :
    48 ≤ character.toNat ∧ character.toNat ≤ 122 := by
  have parts : character.isAlphanum = true ∨ character = '_' := by
    simpa [isIdentifierCharacter] using continues
  rcases parts with alphanumeric | rfl
  · have ranges := toNat_of_isAlphanum alphanumeric
    omega
  · decide

theorem isBlank_of_isIdentifierCharacter
    {character : Char}
    (continues : isIdentifierCharacter character = true) :
    isBlank character = false := by
  rcases toNat_of_isIdentifierCharacter continues with ⟨low, high⟩
  have outside : ∀ range ∈ whiteSpaceRanges, range.2 < 48 ∨ 122 < range.1 := by decide
  have notSpace : isWhiteSpace character = false := by
    by_contra isSpace
    obtain ⟨range, listed, above, below⟩ :=
      exists_range_of_inRanges (Bool.of_not_eq_false isSpace)
    have apart := outside range listed
    omega
  have notSeparator :
      (decide (0x1C ≤ character.toNat) && decide (character.toNat ≤ 0x1F)) = false := by
    simp only [Bool.and_eq_false_iff, decide_eq_false_iff_not]
    omega
  rw [isBlank, notSpace, notSeparator]
  rfl

/-- An identifier has no character of another kind. -/
theorem not_mem_of_isIdentifier
    (identifier : isIdentifier name = true)
    {character : Char}
    (other : isIdentifierCharacter character = false) :
    character ∉ name := by
  intro member
  rw [isIdentifierCharacter_of_mem identifier member] at other
  cases other

theorem isQuoteMark_iff
    {character : Char} :
    (character = '"' || character = '\x60') = true ↔ IsQuoteMark character := by
  simp [IsQuoteMark]

theorem isWordCharacter_of_isBlank
    {character : Char}
    (blank : isBlank character = true) :
    isWordCharacter character = false := by
  cases continues : isWordCharacter character with
  | false => rfl
  | true =>
      have parts : (isIdentifierCharacter character || decide (character = '$')) = true := continues
      rcases (Bool.or_eq_true _ _).mp parts with inIdentifier | isDollar
      · rw [isBlank_of_isIdentifierCharacter inIdentifier] at blank
        cases blank
      · rw [of_decide_eq_true isDollar] at blank
        revert blank
        decide

theorem isWordStart_of_isIdentifier
    {first : Char}
    {run : List Char}
    (identifier : isIdentifier (first :: run) = true) :
    isWordStart first = true :=
  ((Bool.and_eq_true _ _).mp identifier).1

theorem not_isQuoteMark_of_isIdentifierCharacter
    {character : Char}
    (continues : isIdentifierCharacter character = true) :
    ¬ IsQuoteMark character := by
  rintro (rfl | rfl)
  · revert continues
    decide
  · revert continues
    decide

theorem isBlank_of_isQuoteMark (isMark : IsQuoteMark mark) : isBlank mark = false := by
  rcases isMark with rfl | rfl
  · decide
  · decide

/-! ## Plain texts -/

/-- Whether a character changes what the scanner sees. -/
def IsStructural (character : Char) : Prop :=
  closingMark? character ≠ none ∨ character = '(' ∨ character = ')'

/-- The characters that open quotes or parentheses are none of identifiers. -/
theorem not_isStructural_of_isIdentifierCharacter
    {character : Char}
    (continues : isIdentifierCharacter character = true) :
    ¬ IsStructural character := by
  rintro (opens | rfl | rfl)
  · unfold closingMark? at opens
    split at opens
    · revert continues
      decide
    · revert continues
      decide
    · revert continues
      decide
    · revert continues
      decide
    · exact opens rfl
  · revert continues
    decide
  · revert continues
    decide

theorem not_isStructural_of_isBlank
    {character : Char}
    (blank : isBlank character = true) :
    ¬ IsStructural character := by
  rintro (opens | rfl | rfl)
  · unfold closingMark? at opens
    split at opens
    · revert blank
      decide
    · revert blank
      decide
    · revert blank
      decide
    · revert blank
      decide
    · exact opens rfl
  · revert blank
    decide
  · revert blank
    decide

theorem closingMark?_of_not_isStructural
    {character : Char}
    (plain : ¬ IsStructural character) :
    closingMark? character = none := by
  by_contra opens
  exact plain (Or.inl opens)

/-- A plain character leaves the scanner where it stands. -/
theorem next_of_not_isStructural
    {character : Char}
    (plain : ¬ IsStructural character) :
    ({} : ScanState).next character = {} := by
  have notOpen : character ≠ '(' := fun equal => plain (Or.inr (Or.inl equal))
  have notClose : character ≠ ')' := fun equal => plain (Or.inr (Or.inr equal))
  simp [ScanState.next, closingMark?_of_not_isStructural plain, notOpen, notClose]

theorem sees_of_not_isStructural
    {character : Char}
    (plain : ¬ IsStructural character) :
    ({} : ScanState).sees character = true := by
  have notOpen : character ≠ '(' := fun equal => plain (Or.inr (Or.inl equal))
  have notClose : character ≠ ')' := fun equal => plain (Or.inr (Or.inr equal))
  simp [ScanState.sees, closingMark?_of_not_isStructural plain, notOpen, notClose]

/-- A text without quotes and parentheses is closed, and all of it is seen. -/
theorem scan_of_plain
    {characters : List Char}
    (plain : ∀ character ∈ characters, ¬ IsStructural character) :
    IsClosed characters ∧
      marked {} characters = characters.map fun character => (character, true) := by
  induction characters with
  | nil => exact ⟨rfl, rfl⟩
  | cons character rest inductionHypothesis =>
      have here := plain character List.mem_cons_self
      obtain ⟨closed, seen⟩ :=
        inductionHypothesis fun other member => plain other (List.mem_cons_of_mem character member)
      constructor
      · rw [IsClosed, after_cons, next_of_not_isStructural here]
        exact closed
      · rw [marked_cons, next_of_not_isStructural here, sees_of_not_isStructural here, seen]
        rfl

theorem isClosed_of_isBlank (blank : ∀ character ∈ blanks, isBlank character = true) :
    IsClosed blanks :=
  (scan_of_plain fun character member => not_isStructural_of_isBlank (blank character member)).1

theorem topLevelWords_of_isBlank (blank : ∀ character ∈ blanks, isBlank character = true) :
    topLevelWords blanks = [] := by
  rw [List.eq_nil_iff_forall_not_mem]
  intro other member
  rcases exists_run_of_mem_wordsFrom member with ⟨before, run, remaining, first, split, isStart, -⟩
  have inBlanks : first ∈ blanks := by
    rw [(isClosed_of_marked_eq split).2]
    simp
  have continues := isWordCharacter_of_isWordStart isStart
  rw [isWordCharacter_of_isBlank (blank first inBlanks)] at continues
  cases continues

theorem not_isStructural_of_isWordCharacter
    {character : Char}
    (continues : isWordCharacter character = true) :
    ¬ IsStructural character := by
  have parts : (isIdentifierCharacter character || decide (character = '$')) = true := continues
  rcases (Bool.or_eq_true _ _).mp parts with inIdentifier | isDollar
  · exact not_isStructural_of_isIdentifierCharacter inIdentifier
  · rw [of_decide_eq_true isDollar]
    simp [IsStructural, closingMark?]

/-- A word consists of word characters. -/
theorem isWordCharacter_of_isName
    (isNameHere : isName name = true)
    {character : Char}
    (member : character ∈ name) :
    isWordCharacter character = true := by
  cases name with
  | nil => cases member
  | cons first rest =>
      rcases (Bool.and_eq_true _ _).mp isNameHere with ⟨start, others⟩
      rcases List.mem_cons.1 member with rfl | inRest
      · exact isWordCharacter_of_isWordStart start
      · exact List.all_eq_true.1 others character inRest

theorem isName_of_isIdentifier (identifier : isIdentifier name = true) : isName name = true := by
  cases name with
  | nil => cases identifier
  | cons first rest =>
      rw [isName, isWordStart_of_isIdentifier identifier, Bool.true_and, List.all_eq_true]
      intro character member
      exact
        isWordCharacter_of_isIdentifierCharacter
          (isIdentifierCharacter_of_mem identifier (List.mem_cons_of_mem first member))

/-- A word is closed, and all of it is seen. -/
theorem scan_of_isName (isNameHere : isName name = true) :
    IsClosed name ∧ marked {} name = name.map fun character => (character, true) :=
  scan_of_plain fun _ member =>
    not_isStructural_of_isWordCharacter (isWordCharacter_of_isName isNameHere member)

/-- A run of word characters is one word, unless it is the rest of a longer one. -/
theorem wordsFrom_of_isName
    (isNameHere : isName name = true)
    (position : Nat)
    (joined : Bool) :
    wordsFrom position joined (marked {} name) =
      if joined then []
      else [⟨position, position + name.length, name.map Char.toUpper⟩] := by
  rw [(scan_of_isName isNameHere).2]
  cases name with
  | nil => cases isNameHere
  | cons first rest =>
      rcases (Bool.and_eq_true _ _).mp isNameHere with ⟨start, -⟩
      have isRun :
          ∀ member ∈ rest.map fun character => (character, true),
            isWordCharacter member.1 = true := by
        intro member isMapped
        rcases List.mem_map.1 isMapped with ⟨character, inRest, rfl⟩
        exact isWordCharacter_of_isName isNameHere (List.mem_cons_of_mem first inRest)
      have nothing :
          ∀ member ∈ ([] : List (Char × Bool)).head?, isWordCharacter member.1 = false := by
        simp
      have startSeen : isWordStart ((first, true) : Char × Bool).1 = true := start
      have word := wordsFrom_cons_of_start startSeen isRun nothing position joined
      rw [List.append_nil] at word
      rw [List.map_cons, word]
      cases joined
      · simp [Function.comp_def, Nat.add_comm, Nat.add_left_comm]
      · simp

theorem topLevelWords_of_isName (isNameHere : isName name = true) :
    topLevelWords name = [⟨0, name.length, name.map Char.toUpper⟩] := by
  show wordsFrom 0 false (marked {} name) = _
  rw [wordsFrom_of_isName isNameHere, Nat.zero_add]
  rfl

/-! ## Quoted texts -/

theorem closingMark?_of_isQuoteMark (isMark : IsQuoteMark mark) :
    closingMark? mark = some mark := by
  rcases isMark with rfl | rfl
  · rfl
  · rfl

theorem isBlank_of_isWordCharacter
    {character : Char}
    (continues : isWordCharacter character = true) :
    isBlank character = false := by
  by_contra blank
  rw [isWordCharacter_of_isBlank (Bool.of_not_eq_false blank)] at continues
  cases continues

/-- The marks that open and close quotes. -/
theorem marks_of_closingMark?
    {opening closing : Char}
    (opens : closingMark? opening = some closing) :
    isBlank opening = false ∧ isBlank closing = false ∧ opening ≠ '*' ∧ closing ≠ '*' := by
  unfold closingMark? at opens
  split at opens
  all_goals cases opens
  all_goals decide

/-- A text that means nothing to the scanner: it sees none of it and counts no parenthesis in it. -/
structure IsHidden (state : ScanState) (text : List Char) : Prop where
  unseen : ∀ entry ∈ marked state text, entry.2 = false
  depth_eq : ∀ count, (state.after (text.take count)).depth = state.depth

namespace IsHidden

variable {state : ScanState} {left right : List Char}

theorem nil (state : ScanState) : IsHidden state [] where
  unseen := by simp
  depth_eq := by simp

theorem singleton
    {character : Char}
    (unseen : state.sees character = false)
    (level : (state.next character).depth = state.depth) :
    IsHidden state [character] where
  unseen := by
    intro entry member
    rw [marked_cons, marked_nil, List.mem_singleton] at member
    rw [member, unseen]
  depth_eq := by
    intro count
    cases count with
    | zero => rfl
    | succ count => simpa using level

theorem append
    (first : IsHidden state left)
    (second : IsHidden (state.after left) right) :
    IsHidden state (left ++ right) where
  unseen := by
    intro entry member
    rw [marked_append] at member
    rcases List.mem_append.1 member with inLeft | inRight
    · exact first.unseen entry inLeft
    · exact second.unseen entry inRight
  depth_eq := by
    intro count
    rw [List.take_append, after_append]
    rcases Nat.le_total left.length count with whole | short
    · have level := first.depth_eq left.length
      rw [List.take_length] at level
      rw [List.take_of_length_le whole, second.depth_eq, level]
    · rw [Nat.sub_eq_zero_of_le short, List.take_zero, after_nil, first.depth_eq]

end IsHidden

section Marks

variable {opening closing : Char}

theorem next_opening (opens : closingMark? opening = some closing) :
    ({} : ScanState).next opening = ⟨0, some closing⟩ := by
  simp [ScanState.next, opens]

theorem next_closing (closing : Char) : (⟨0, some closing⟩ : ScanState).next closing = {} := by
  simp [ScanState.next]

theorem isHidden_opening (opens : closingMark? opening = some closing) :
    IsHidden {} [opening] := by
  refine IsHidden.singleton ?_ ?_
  · simp [ScanState.sees, opens]
  · rw [next_opening opens]

theorem isHidden_closing (closing : Char) : IsHidden ⟨0, some closing⟩ [closing] := by
  refine IsHidden.singleton rfl ?_
  rw [next_closing]

end Marks

/-- A text inside a quote that is hidden and leaves the quote open. -/
structure StaysQuoted (closing : Char) (body : List Char) : Prop where
  after_eq : (⟨0, some closing⟩ : ScanState).after body = ⟨0, some closing⟩
  isHidden : IsHidden ⟨0, some closing⟩ body

namespace StaysQuoted

variable {left right body : List Char} {opening closing character : Char}

theorem nil (closing : Char) : StaysQuoted closing [] where
  after_eq := rfl
  isHidden := IsHidden.nil ⟨0, some closing⟩

theorem append
    (first : StaysQuoted closing left)
    (second : StaysQuoted closing right) :
    StaysQuoted closing (left ++ right) where
  after_eq := by rw [after_append, first.after_eq, second.after_eq]
  isHidden := by
    refine first.isHidden.append ?_
    rw [first.after_eq]
    exact second.isHidden

/-- A quote holds any character but its closing mark. -/
theorem singleton (other : character ≠ closing) : StaysQuoted closing [character] := by
  have stays : (⟨0, some closing⟩ : ScanState).next character = ⟨0, some closing⟩ := by
    simp [ScanState.next, other]
  constructor
  · rw [after_cons, stays, after_nil]
  · refine IsHidden.singleton rfl ?_
    rw [stays]

theorem of_not_mem (absent : closing ∉ name) : StaysQuoted closing name := by
  induction name with
  | nil => exact nil closing
  | cons character rest inductionHypothesis =>
      rw [List.mem_cons, not_or] at absent
      exact (singleton (Ne.symm absent.1)).append (inductionHypothesis absent.2)

/-- The marks around a quoted text are hidden with it, and leave nothing open. -/
theorem enclosed
    (inside : StaysQuoted closing body)
    (opens : closingMark? opening = some closing) :
    IsClosed (opening :: (body ++ [closing])) ∧
      IsHidden {} (opening :: (body ++ [closing])) := by
  constructor
  · rw [IsClosed, after_cons, next_opening opens, after_append, inside.after_eq, after_cons,
      next_closing, after_nil]
  · refine (isHidden_opening opens).append ?_
    rw [after_cons, next_opening opens, after_nil]
    refine inside.isHidden.append ?_
    rw [inside.after_eq]
    exact isHidden_closing closing

end StaysQuoted

/-- A quote hides what it holds up to its closing mark. -/
theorem scan_enclosed
    {opening closing : Char}
    (opens : closingMark? opening = some closing)
    (absent : closing ∉ name) :
    IsClosed (opening :: (name ++ [closing])) ∧
      ∀ entry ∈ marked {} (opening :: (name ++ [closing])), entry.2 = false := by
  rcases (StaysQuoted.of_not_mem absent).enclosed opens with ⟨closed, hidden⟩
  exact ⟨closed, hidden.unseen⟩

/-- The marks around a text are dropped, whatever stands between them. -/
theorem unquote_enclosed
    {opening closing : Char}
    (opens : closingMark? opening = some closing)
    (body : List Char) :
    unquote (opening :: (body ++ [closing])) = body := by
  rcases marks_of_closingMark? opens with ⟨openingVisible, closingVisible, -, -⟩
  have trimmed : trimBlanks (opening :: (body ++ [closing])) = opening :: (body ++ [closing]) := by
    refine trimBlanks_of_ends (fun first isFirst => ?_) fun last isLast => ?_
    · cases isFirst
      exact openingVisible
    · rw [← List.cons_append, List.getLast?_concat] at isLast
      cases isLast
      exact closingVisible
  rw [unquote, trimmed]
  cases body with
  | nil => simp [opens]
  | cons first rest =>
      have isLast : (first :: (rest ++ [closing])).getLast (by simp) = closing := by simp
      have isInside : (first :: (rest ++ [closing])).dropLast = first :: rest := by
        rw [← List.cons_append, List.dropLast_concat]
      simp [opens, isLast, isInside]

/-- What an opening mark is followed by runs up to the closing one. -/
theorem takeWhile_ne_mark (absent : mark ∉ name) (rest : List Char) :
    (name ++ mark :: rest).takeWhile (· ≠ mark) = name := by
  have isBody : ∀ character ∈ name, decide (character ≠ mark) = true := by
    intro character member
    refine decide_eq_true fun equal => absent ?_
    rwa [← equal]
  rw [List.takeWhile_append_of_pos isBody]
  simp

theorem dropWhile_ne_mark (absent : mark ∉ name) (rest : List Char) :
    (name ++ mark :: rest).dropWhile (· ≠ mark) = mark :: rest := by
  have isBody : ∀ character ∈ name, decide (character ≠ mark) = true := by
    intro character member
    refine decide_eq_true fun equal => absent ?_
    rwa [← equal]
  rw [List.dropWhile_append_of_pos isBody]
  simp

/-! ## Identifiers at the beginning of a text -/

theorem takeWhile_run
    {run rest : List Char}
    (isRun : ∀ character ∈ run, isWordCharacter character = true)
    (ends : ∀ character ∈ rest.head?, isWordCharacter character = false) :
    (run ++ rest).takeWhile isWordCharacter = run := by
  rw [List.takeWhile_append_of_pos isRun]
  cases rest with
  | nil => simp
  | cons first others => simp [ends first rfl]

theorem dropWhile_run
    {run rest : List Char}
    (isRun : ∀ character ∈ run, isWordCharacter character = true)
    (ends : ∀ character ∈ rest.head?, isWordCharacter character = false) :
    (run ++ rest).dropWhile isWordCharacter = rest := by
  rw [List.dropWhile_append_of_pos isRun]
  cases rest with
  | nil => rfl
  | cons first others => simp [ends first rfl]

/-- A word is the identifier that a text begins with. -/
theorem takeIdentifier_word
    {first : Char}
    {run rest : List Char}
    (start : isWordStart first = true)
    (isRun : ∀ character ∈ run, isWordCharacter character = true)
    (ends : ∀ character ∈ rest.head?, isWordCharacter character = false) :
    takeIdentifier (first :: (run ++ rest)) = some (first :: run, rest) := by
  have notMark :=
    not_isQuoteMark_of_isIdentifierCharacter (isIdentifierCharacter_of_isWordStart start)
  rw [takeIdentifier, if_neg (fun isMark => notMark (isQuoteMark_iff.1 isMark)), if_pos start,
    takeWhile_run isRun ends, dropWhile_run isRun ends]

/-! ## Written names -/

/-- A name as it is written: a word, or any text in quotes that the text does not close. -/
inductive Written : (name text : List Char) → Prop
  | bare {name : List Char} : isName name = true → Written name name
  | quoted {name : List Char} {opening closing : Char} :
      closingMark? opening = some closing → closing ∉ name →
        Written name (opening :: (name ++ [closing]))

namespace Written

theorem isClosed (written : Written name text) : IsClosed text := by
  cases written with
  | bare isName => exact (scan_of_isName isName).1
  | quoted opens absent => exact (scan_enclosed opens absent).1

/-- A written name is one word if it is bare, and otherwise none. -/
theorem topLevelWords_eq (written : Written name text) :
    topLevelWords text = [] ∨ topLevelWords text = [⟨0, text.length, text.map Char.toUpper⟩] := by
  cases written with
  | bare isName => exact Or.inr (topLevelWords_of_isName isName)
  | quoted opens absent => exact Or.inl (wordsFrom_of_hidden (scan_enclosed opens absent).2 0 false)

/-- A written name is the only word that it can be. -/
theorem is_eq_false_of_mem
    (written : Written name text)
    {keyword : String}
    (isOther : text.map Char.toUpper ≠ keyword.toList)
    {word : Word}
    (member : word ∈ topLevelWords text) :
    word.is keyword = false := by
  rcases written.topLevelWords_eq with nothing | single
  · rw [nothing] at member
    cases member
  · rw [single, List.mem_singleton] at member
    subst member
    simpa [Word.is] using isOther

/-- A written name begins and ends with a character that is neither a blank nor a star. -/
theorem ends
    (written : Written name text)
    {character : Char}
    (isEnd : character ∈ text.head? ∨ character ∈ text.getLast?) :
    isBlank character = false ∧ character ≠ '*' := by
  cases written with
  | bare isName =>
      have member : character ∈ name := isEnd.elim List.mem_of_mem_head? List.mem_of_getLast?
      have continues := isWordCharacter_of_isName isName member
      refine ⟨isBlank_of_isWordCharacter continues, ?_⟩
      rintro rfl
      revert continues
      decide
  | quoted opens absent =>
      rcases marks_of_closingMark? opens with
        ⟨openingVisible, closingVisible, openingOther, closingOther⟩
      rcases isEnd with isFirst | isLast
      · cases isFirst
        exact ⟨openingVisible, openingOther⟩
      · rw [List.getLast?_cons, List.getLast?_append] at isLast
        cases isLast
        exact ⟨closingVisible, closingOther⟩

theorem ne_nil (written : Written name text) : text ≠ [] := by
  cases written with
  | bare isName =>
      rintro rfl
      cases isName
  | quoted opens absent => exact List.cons_ne_nil _ _

/-- What ends with a written name ends with neither a blank nor a star. -/
theorem ends_append
    (written : Written name text)
    (front : List Char)
    {last : Char}
    (isLast : last ∈ (front ++ text).getLast?) :
    isBlank last = false ∧ last ≠ '*' := by
  rw [List.getLast?_append_of_ne_nil front written.ne_nil] at isLast
  exact written.ends (Or.inr isLast)

/-- What begins with a written name begins with no blank. -/
theorem begins_append
    (written : Written name text)
    (rest : List Char)
    {first : Char}
    (isFirst : first ∈ (text ++ rest).head?) :
    isBlank first = false := by
  rw [List.head?_append_of_ne_nil text written.ne_nil] at isFirst
  exact (written.ends (Or.inl isFirst)).1

/-- A written name has no blanks around it. -/
theorem trimBlanks_eq (written : Written name text) : trimBlanks text = text :=
  trimBlanks_of_ends (fun _ isFirst => (written.ends (Or.inl isFirst)).1)
    fun _ isLast => (written.ends (Or.inr isLast)).1

/-- The name is what is written without its quotes. -/
theorem unquote_eq (written : Written name text) : unquote text = name := by
  have trimmed := written.trimBlanks_eq
  cases written with
  | bare isName =>
      rw [unquote, trimmed]
      match name, isName with
      | [first], _ => rfl
      | first :: second :: others, isName =>
          have plain :=
            closingMark?_of_not_isStructural
              (not_isStructural_of_isWordCharacter
                (isWordCharacter_of_isName isName List.mem_cons_self))
          simp [plain]
  | quoted opens absent => exact unquote_enclosed opens name

end Written

/-! ## Aliases -/

/-- What does not end with a star is neither a star nor all columns of a table. -/
theorem not_star_of_getLast?
    {last : Char}
    (isLast : last ∈ item.getLast?)
    (other : last ≠ '*') :
    ¬ (item = star || ['.', '*'].isSuffixOf item) = true := by
  have ofStar : '*' ∉ item.getLast? := by
    rw [Option.mem_def.1 isLast]
    intro isStar
    exact other (Option.some.inj isStar)
  intro isStar
  rcases (Bool.or_eq_true _ _).mp isStar with equal | isSuffix
  · exact ofStar (by rw [of_decide_eq_true equal]; rfl)
  · rcases List.isSuffixOf_iff_suffix.1 isSuffix with ⟨before, rfl⟩
    refine ofStar ?_
    rw [List.getLast?_append]
    rfl

/-- What ends with a written name is neither a star nor all columns of a table. -/
theorem Written.not_star_append
    (written : Written name text)
    (front : List Char) :
    ¬ (front ++ text = star || ['.', '*'].isSuffixOf (front ++ text)) = true := by
  cases ending : (front ++ text).getLast? with
  | none =>
      have nothing := List.append_eq_nil_iff.1 (List.getLast?_eq_none_iff.1 ending)
      exact absurd nothing.2 written.ne_nil
  | some last => exact not_star_of_getLast? ending (written.ends_append front ending).2

/-- An item that ends with AS and an alias has the name of the alias. -/
theorem Written.itemNameOf_append
    (written : Written name text)
    (notAs : text.map Char.toUpper ≠ "AS".toList)
    {front : List Char}
    (frontClosed : IsClosed front)
    (separate : Separated front ("AS ".toList ++ text))
    (postgres : Bool) :
    itemNameOf postgres (front ++ ("AS ".toList ++ text)) =
      .ok (dropMarker typeMarker.toList name) := by
  have notStar := written.not_star_append (front ++ "AS ".toList)
  rw [List.append_assoc] at notStar
  have wordClosed : IsClosed "AS ".toList := rfl
  have keyword : topLevelWords "AS ".toList = [⟨0, 2, "AS".toList⟩] := by decide +kernel
  have noOther (offset : Nat) :
      ((topLevelWords text).map (Word.shift offset)).filter (fun word => word.is "AS") = [] := by
    rw [List.filter_map, List.map_eq_nil_iff, List.filter_eq_nil_iff]
    intro word member
    rw [Function.comp_apply, Word.is_shift, written.is_eq_false_of_mem notAs member]
    exact Bool.false_ne_true
  have found :
      ((topLevelWords (front ++ ("AS ".toList ++ text))).filter
          fun word => word.is "AS").getLast? =
        some ⟨front.length, 2 + front.length, "AS".toList⟩ := by
    rw [topLevelWords_append frontClosed separate,
      topLevelWords_append wordClosed (separated_append_blank "AS".toList text), keyword,
      List.map_append, List.map_map, List.filter_append, List.filter_append]
    have shifted : Word.shift front.length ∘ Word.shift "AS ".toList.length =
        Word.shift ("AS ".toList.length + front.length) := by
      funext word
      simp
    rw [shifted, noOther, List.append_nil, List.getLast?_append]
    simp [Word.shift, Word.is]
  have remaining : (front ++ ("AS ".toList ++ text)).drop (2 + front.length) = [' '] ++ text := by
    rw [Nat.add_comm, ← List.drop_drop, List.drop_left]
    rfl
  have unquoted : unquote ([' '] ++ text) = unquote text := by
    rw [unquote, trimBlanks_append_left isBlank_of_mem_space, unquote]
  rw [itemNameOf, if_neg notStar, found]
  dsimp only
  rw [remaining, nameOf, unquoted, written.unquote_eq]

end SqlMapping.Query
