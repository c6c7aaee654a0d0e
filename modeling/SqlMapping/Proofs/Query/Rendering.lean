import SqlMapping.Proofs.Query.Written
import SqlMapping.Proofs.Statement.Placeholders
import SqlMapping.Query.Branch

/-!
# Rendered branches

The pieces of a branch are its literals as they stand and, for its arguments, the placeholders of
the backend from the first one on.  A branch is rendered piece by piece, with one blank between two
neighbours unless white space is there already or the two may touch.  No piece is lost, moved or
changed by that, and no placeholder runs into a digit that follows it.

The main statement says so of every branch and every backend that numbers its placeholders in a
standard style, and that the placeholders which a database finds in the text are those of the
arguments, in order.
-/

namespace SqlMapping

/-- The character with which the placeholders of a style begin. -/
def PlaceholderStyle.sign : PlaceholderStyle → Char
  | .numbered => '$'
  | .questionMark => '?'

namespace Query

open Text

/-! ## Pieces -/

/-- A literal or a placeholder as it is written. -/
structure TextPiece where
  characters : List Char
  isArgument : Bool

/-- The pieces of fragments behind `used` arguments; an empty literal is none. -/
def piecesFrom (backend : Backend) : (used : Nat) → List Fragment → List TextPiece
  | _, [] => []
  | used, .literal text :: rest =>
    if text.toList = [] then piecesFrom backend used rest
    else ⟨text.toList, false⟩ :: piecesFrom backend used rest
  | used, .argument _ :: rest =>
    ⟨(backend.placeholder used).toList, true⟩ :: piecesFrom backend (used + 1) rest

/-- The pieces of a branch. -/
def Branch.pieces (branch : Branch) (backend : Backend) : List TextPiece :=
  piecesFrom backend 0 branch.fragments

/-- Whether white space stands where two pieces meet. -/
def BringsBlank (earlier later : TextPiece) : Prop :=
  (∃ last ∈ earlier.characters.getLast?, isBlank last = true) ∨
    ∃ first ∈ later.characters.head?, isBlank first = true

/--
Whether two pieces may touch: an argument that follows a comparison, an opening parenthesis or a
comma, or a literal that begins with a closing parenthesis or a comma.
-/
def MayTouch (earlier later : TextPiece) : Prop :=
  (later.isArgument = true ∧
      ∃ last ∈ earlier.characters.getLast?, last ∈ ['=', '<', '>', '(', ',']) ∨
    (later.isArgument = false ∧ ∃ first ∈ later.characters.head?, first ∈ [')', ','])

/-- What stands between two pieces: one blank, or nothing where white space is there or needless. -/
structure IsGap (earlier later : TextPiece) (gap : List Char) : Prop where
  isShort : gap = [] ∨ gap = [' ']
  isEmpty_iff : gap = [] ↔ BringsBlank earlier later ∨ MayTouch earlier later

/-- Pieces one after the other, with a gap between any two neighbours and nothing else. -/
inductive IsJoined : List TextPiece → (text : List Char) → Prop
  | nil : IsJoined [] []
  | single (piece : TextPiece) : IsJoined [piece] piece.characters
  | cons {earlier later : TextPiece} {rest : List TextPiece} {gap text : List Char} :
      IsGap earlier later gap → IsJoined (later :: rest) text →
        IsJoined (earlier :: later :: rest) (earlier.characters ++ (gap ++ text))

/-- A fragment that brings no sign of a placeholder into the text. -/
def Fragment.IsPlain : Fragment → Prop
  | .literal text => ShowsNoSign text.toList
  | .argument _ => True

/--
A text of a branch: its pieces in order, of which a database takes the arguments of the branch, and
nothing else, for placeholders.
-/
structure Branch.IsWrittenAs (branch : Branch) (backend : Backend) (text : List Char) : Prop where
  isJoined : IsJoined (branch.pieces backend) text
  shown_eq : shownPlaceholders text = backend.placeholders 0 branch.sources.length

variable {backend : Backend} {style : PlaceholderStyle} {fragments : List Fragment}
  {pieces rest : List TextPiece} {piece first : TextPiece} {text : List Char} {used : Nat}

/-! ## Placeholders as pieces -/

theorem text_ne_nil (style : PlaceholderStyle) (used : Nat) : (style.text used).toList ≠ [] := by
  cases style with
  | questionMark => simp [PlaceholderStyle.toList_text_questionMark]
  | numbered => simp [PlaceholderStyle.toList_text_numbered]

/-- A placeholder consists of its sign and digits. -/
theorem eq_sign_or_isDigit
    {character : Char}
    (member : character ∈ (style.text used).toList) :
    character = style.sign ∨ character.isDigit = true := by
  cases style with
  | questionMark =>
      rw [PlaceholderStyle.toList_text_questionMark] at member
      exact Or.inl (List.mem_singleton.1 member)
  | numbered =>
      rw [PlaceholderStyle.toList_text_numbered] at member
      rcases List.mem_cons.1 member with isSign | isDigit
      · exact Or.inl isSign
      · exact Or.inr (PlaceholderStyle.isDigit_of_mem_position isDigit)

/-- The character by which a placeholder ends is no blank, and no argument may touch it. -/
theorem ends_text
    {character : Char}
    (member : character ∈ (style.text used).toList) :
    isBlank character = false ∧ character ∉ ['=', '<', '>', '(', ','] := by
  rcases eq_sign_or_isDigit member with rfl | isDigit
  · cases style
    · decide
    · decide
  · have continues : isIdentifierCharacter character = true := by
      simp [isIdentifierCharacter, Char.isAlphanum, isDigit]
    refine ⟨isBlank_of_isIdentifierCharacter continues, fun listed => ?_⟩
    have noDigit : (['=', '<', '>', '(', ','].any Char.isDigit) = false := by decide
    exact List.any_eq_false.1 noDigit character listed isDigit

theorem ne_nil_of_mem_piecesFrom
    (numbers : backend.placeholder = style.text)
    (member : piece ∈ piecesFrom backend used fragments) :
    piece.characters ≠ [] := by
  induction fragments generalizing used with
  | nil => cases member
  | cons fragment others inductionHypothesis =>
      cases fragment with
      | literal text =>
          rw [piecesFrom] at member
          split_ifs at member with isEmpty
          · exact inductionHypothesis member
          · rcases List.mem_cons.1 member with rfl | later
            · exact isEmpty
            · exact inductionHypothesis later
      | argument source =>
          rw [piecesFrom] at member
          rcases List.mem_cons.1 member with rfl | later
          · rw [numbers]
            exact text_ne_nil style used
          · exact inductionHypothesis later

/-! ## Rendering piece by piece -/

/-- A text with another piece behind it. -/
def TextPiece.appendTo (previous : List Char) (piece : TextPiece) : List Char :=
  appendPiece previous piece.characters piece.isArgument

/-- Rendering appends the pieces, one after the other. -/
theorem renderFrom_eq_foldl (used : Nat) (previous : List Char) (fragments : List Fragment) :
    renderFrom backend used previous fragments =
      (piecesFrom backend used fragments).foldl TextPiece.appendTo previous := by
  induction fragments generalizing used previous with
  | nil => rfl
  | cons fragment others inductionHypothesis =>
      cases fragment with
      | literal text =>
          rw [renderFrom, inductionHypothesis, piecesFrom]
          split_ifs with isEmpty
          · simp [appendPiece, isEmpty]
          · rfl
      | argument source =>
          rw [renderFrom, inductionHypothesis]
          rfl

/-- What stands before the last piece has no influence on the next gap. -/
theorem glue_append
    {earlier : List Char}
    (notEmpty : earlier ≠ [])
    (front current : List Char)
    (isArgument : Bool) :
    glue (front ++ earlier) current isArgument = glue earlier current isArgument := by
  rw [glue, glue, List.getLast?_append_of_ne_nil front notEmpty]

/-- The gap that rendering puts between two pieces. -/
theorem isGap_glue {earlier later : TextPiece} (notEmpty : earlier.characters ≠ []) :
    IsGap earlier later (glue earlier.characters later.characters later.isArgument) := by
  obtain ⟨last, isLast⟩ : ∃ last, earlier.characters.getLast? = some last :=
    ⟨_, List.getLast?_eq_some_getLast notEmpty⟩
  have blankBetween :
      (isBlank last || later.characters.head?.any isBlank) = true ↔ BringsBlank earlier later := by
    simp [BringsBlank, isLast, Option.any_eq_true]
  have mayTouch :
      (later.isArgument && opensArgument.contains last) = true ∨
          (!later.isArgument && later.characters.head?.any closesLiteral.contains) = true ↔
        MayTouch earlier later := by
    simp [MayTouch, isLast, Option.any_eq_true, opensArgument, closesLiteral]
  rw [glue, isLast]
  dsimp only
  constructor
  case isShort => split_ifs <;> simp
  case isEmpty_iff =>
    rw [← blankBetween, ← mayTouch]
    split_ifs <;> simp_all

/-- Pieces that are appended to a text are joined with its last piece. -/
theorem exists_isJoined_foldl
    (notEmpty : ∀ piece ∈ first :: rest, piece.characters ≠ [])
    (front : List Char) :
    ∃ text : List Char,
      rest.foldl TextPiece.appendTo (front ++ first.characters) = front ++ text ∧
        IsJoined (first :: rest) text := by
  induction rest generalizing first front with
  | nil => exact ⟨first.characters, rfl, .single first⟩
  | cons second others inductionHypothesis =>
      have firstNotEmpty := notEmpty first List.mem_cons_self
      have othersNotEmpty : ∀ piece ∈ second :: others, piece.characters ≠ [] :=
        fun piece member => notEmpty piece (List.mem_cons_of_mem first member)
      have appended :
          TextPiece.appendTo (front ++ first.characters) second =
            front ++ (first.characters ++ glue first.characters second.characters second.isArgument)
              ++ second.characters := by
        rw [TextPiece.appendTo, appendPiece, if_neg, glue_append firstNotEmpty]
        · simp
        · simpa using othersNotEmpty second List.mem_cons_self
      rcases inductionHypothesis othersNotEmpty
          (front
            ++ (first.characters ++ glue first.characters second.characters second.isArgument)) with
        ⟨text, equal, joined⟩
      refine ⟨_, ?_, .cons (isGap_glue firstNotEmpty) joined⟩
      rw [List.foldl_cons, appended, equal]
      simp

theorem isJoined_foldl (notEmpty : ∀ piece ∈ pieces, piece.characters ≠ []) :
    IsJoined pieces (pieces.foldl TextPiece.appendTo []) := by
  cases pieces with
  | nil => exact .nil
  | cons first rest =>
      rcases exists_isJoined_foldl notEmpty [] with ⟨text, equal, joined⟩
      have alone : TextPiece.appendTo [] first = first.characters := by
        simp [TextPiece.appendTo, appendPiece, glue]
      rw [List.foldl_cons, alone, ← List.nil_append first.characters, equal]
      exact joined

/-- A rendered branch consists of its pieces, in order. -/
theorem isJoined_render (numbers : backend.placeholder = style.text) (branch : Branch) :
    IsJoined (branch.pieces backend) (branch.render backend).toList := by
  rw [Branch.render, renderFragments, String.toList_ofList, renderFrom_eq_foldl]
  exact isJoined_foldl fun piece member => ne_nil_of_mem_piecesFrom numbers member

/-! ## Placeholders that are found -/

namespace IsJoined

/-- The first piece is followed by a gap and the pieces after it. -/
theorem exists_gap (joined : IsJoined (piece :: rest) text) :
    ∃ gap remaining : List Char,
      text = piece.characters ++ (gap ++ remaining) ∧ (gap = [] ∨ gap = [' ']) ∧
        (∀ later ∈ rest.head?, IsGap piece later gap) ∧ IsJoined rest remaining := by
  cases joined with
  | single => exact ⟨[], [], by simp, Or.inl rfl, by simp, .nil⟩
  | @cons _ later others gap text isGap joined =>
      refine ⟨gap, text, rfl, isGap.isShort, ?_, joined⟩
      intro other isFirst
      cases isFirst
      exact isGap

theorem eq_nil (joined : IsJoined [] text) : text = [] := by
  cases joined
  rfl

/-- A text begins as its first piece does. -/
theorem head?_eq
    (joined : IsJoined (piece :: rest) text)
    (notEmpty : piece.characters ≠ []) :
    text.head? = piece.characters.head? := by
  rcases joined.exists_gap with ⟨gap, remaining, rfl, -⟩
  exact List.head?_append_of_ne_nil _ notEmpty

end IsJoined

/-- A gap without a sign. -/
theorem showsNoSign_of_isShort {gap : List Char} (isShort : gap = [] ∨ gap = [' ']) :
    ShowsNoSign gap := by
  rcases isShort with rfl | rfl
  · decide
  · decide

/-- What follows a placeholder does not go on with a digit. -/
theorem beginsApart_of_isGap
    {gap : List Char}
    (isShort : gap = [] ∨ gap = [' '])
    (isGap :
      ∀ later ∈ rest.head?, IsGap ⟨(style.text used).toList, true⟩ later gap)
    (notEmpty : ∀ piece ∈ rest, piece.characters ≠ [])
    (joined : IsJoined rest text) :
    BeginsApart (gap ++ text) := by
  rcases isShort with rfl | rfl
  case inr =>
    intro character isFirst
    cases isFirst
    rfl
  cases rest with
  | nil =>
      rw [joined.eq_nil]
      intro character isFirst
      cases isFirst
  | cons later others =>
      intro character isFirst
      rw [List.nil_append, joined.head?_eq (notEmpty later List.mem_cons_self)] at isFirst
      -- Nothing ends a placeholder that an argument may touch, nor does it end in white space.
      rcases (isGap later rfl).isEmpty_iff.1 rfl with (endsBlank | beginsBlank) | touches | touches
      · rcases endsBlank with ⟨last, isLast, blank⟩
        rw [(ends_text (List.mem_of_getLast? isLast)).1] at blank
        cases blank
      · rcases beginsBlank with ⟨own, isOwn, blank⟩
        obtain rfl : character = own := Option.mem_unique isFirst isOwn
        by_contra isDigit
        have continues : isIdentifierCharacter character = true := by
          simp [isIdentifierCharacter, Char.isAlphanum, Bool.of_not_eq_false isDigit]
        rw [isBlank_of_isIdentifierCharacter continues] at blank
        cases blank
      · rcases touches.2 with ⟨last, isLast, listed⟩
        exact absurd listed (ends_text (List.mem_of_getLast? isLast)).2
      · rcases touches.2 with ⟨own, isOwn, listed⟩
        obtain rfl : character = own := Option.mem_unique isFirst isOwn
        have noDigit : ([')', ','].any Char.isDigit) = false := by decide
        exact Bool.eq_false_iff.2 (List.any_eq_false.1 noDigit character listed)

/-- The placeholders in joined pieces are those of the arguments. -/
theorem shown_of_isJoined
    (numbers : backend.placeholder = style.text)
    (plain : ∀ fragment ∈ fragments, fragment.IsPlain)
    (joined : IsJoined (piecesFrom backend used fragments) text) :
    shownPlaceholders text =
      backend.placeholders used (fragments.filterMap Fragment.source?).length := by
  induction fragments generalizing used text with
  | nil =>
      rw [joined.eq_nil]
      rfl
  | cons fragment others inductionHypothesis =>
      have othersPlain : ∀ fragment ∈ others, fragment.IsPlain := fun other member =>
        plain other (List.mem_cons_of_mem fragment member)
      cases fragment with
      | literal literal =>
          have literalPlain : ShowsNoSign literal.toList := plain _ List.mem_cons_self
          rw [piecesFrom] at joined
          split_ifs at joined
          · exact inductionHypothesis othersPlain joined
          · rcases joined.exists_gap with ⟨gap, remaining, rfl, isShort, -, others⟩
            rw [shownPlaceholders_append_of_showsNoSign literalPlain,
              shownPlaceholders_append_of_showsNoSign (showsNoSign_of_isShort isShort)]
            exact inductionHypothesis othersPlain others
      | argument source =>
          have notEmpty : ∀ piece ∈ piecesFrom backend (used + 1) others, piece.characters ≠ [] :=
            fun _ member => ne_nil_of_mem_piecesFrom numbers member
          rw [piecesFrom] at joined
          rcases joined.exists_gap with ⟨gap, remaining, rfl, isShort, isGap, others⟩
          rw [numbers] at isGap
          have apart := beginsApart_of_isGap isShort isGap notEmpty others
          dsimp only
          rw [numbers, style.shownPlaceholders_text_append used apart,
            shownPlaceholders_append_of_showsNoSign (showsNoSign_of_isShort isShort),
            inductionHypothesis othersPlain others, ← numbers]
          rfl

/--
A rendered branch is the sequence of its pieces with at most a blank between two of them, and a
database finds exactly the placeholders of its arguments in it.
-/
theorem Branch.isWrittenAs_render
    {branch : Branch}
    (plain : ∀ fragment ∈ branch.fragments, fragment.IsPlain)
    (numbers : backend.placeholder = style.text) :
    branch.IsWrittenAs backend (branch.render backend).toList := by
  have joined := isJoined_render numbers branch
  exact ⟨joined, shown_of_isJoined numbers plain joined⟩

/-- A list of arguments, an empty literal, a line break and a digit behind an argument. -/
def noteSearch : Branch where
  guards := []
  fragments :=
    [.literal "WHERE id IN (", .argument (.parameter "first"), .literal ",",
      .argument (.parameter "second"), .literal ")", .literal "", .literal "\nLIMIT",
      .argument (.parameter "count"), .literal "0"]

/-- A search is written with blanks where it needs them. -/
theorem isWrittenAs_noteSearch :
    ((∀ fragment ∈ noteSearch.fragments, fragment.IsPlain) ∧
        Backend.postgres.placeholder = PlaceholderStyle.numbered.text) ∧
      noteSearch.IsWrittenAs .postgres "WHERE id IN ($1,$2)\nLIMIT $3 0".toList := by
  have plain : ∀ fragment ∈ noteSearch.fragments, fragment.IsPlain := by
    simp only [noteSearch, List.forall_mem_cons, Fragment.IsPlain, List.not_mem_nil,
      IsEmpty.forall_iff, implies_true]
    decide
  have rendered : noteSearch.render .postgres = "WHERE id IN ($1,$2)\nLIMIT $3 0" := by
    decide +kernel
  have numbers : Backend.postgres.placeholder = PlaceholderStyle.numbered.text := rfl
  refine ⟨⟨plain, numbers⟩, ?_⟩
  rw [← rendered]
  exact Branch.isWrittenAs_render plain numbers

end Query

end SqlMapping
