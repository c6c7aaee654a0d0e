import Mathlib.Tactic.SplitIfs
import SqlMapping.Proofs.Statement.Rendering

/-!
# Placeholders that a text shows

A database finds the placeholders of a statement in its text: question marks, or dollar signs
with the digits after them.  A rendered template shows the placeholders that it was made with,
and no others, as long as no name brings a sign of its own and no digit follows a placeholder.

The main statement says so for a template that is followed by anything but a digit, which is
what makes it true of templates that are put together.
-/

namespace SqlMapping

/-- A text in which no placeholder can begin. -/
def ShowsNoSign (characters : List Char) : Prop :=
  ∀ character ∈ characters, character ≠ '?' ∧ character ≠ '$'

/-- A text that does not go on with digits of a text before it. -/
def BeginsApart (characters : List Char) : Prop :=
  ∀ character ∈ characters.head?, character.isDigit = false

-- Inference may decide both by going through all characters that there are.
instance (characters : List Char) : Decidable (ShowsNoSign characters) :=
  List.decidableBAll (fun character => character ≠ '?' ∧ character ≠ '$') characters

instance (characters : List Char) : Decidable (BeginsApart characters) :=
  Option.decidableForallMem (o := characters.head?)

/-! ## Finding placeholders -/

/-- The placeholder that begins with a character in front of some others, if one does. -/
def placeholder? (character : Char) (rest : List Char) : Option String :=
  let digits := rest.takeWhile Char.isDigit
  if character = '?' then some "?"
  else if character = '$' ∧ digits ≠ [] then some (String.ofList ('$' :: digits))
  else none

/-- The placeholders that a text shows, from left to right. -/
def shownPlaceholders : List Char → List String
  | [] => []
  | character :: rest => (placeholder? character rest).toList ++ shownPlaceholders rest

@[simp]
theorem shownPlaceholders_nil : shownPlaceholders [] = [] := rfl

variable {left right : List Char}

theorem shownPlaceholders_append_of_showsNoSign
    (noSign : ShowsNoSign left)
    (right : List Char) :
    shownPlaceholders (left ++ right) = shownPlaceholders right := by
  induction left with
  | nil => rfl
  | cons character rest inductionHypothesis =>
      have notHere := noSign character List.mem_cons_self
      have notLater := inductionHypothesis fun other member =>
        noSign other (List.mem_cons_of_mem character member)
      have begins : placeholder? character (rest ++ right) = none := by
        rw [placeholder?, if_neg notHere.1]
        exact if_neg fun both => notHere.2 both.1
      rw [List.cons_append, shownPlaceholders, begins, notLater]
      rfl

/-- Digits are taken up to where a text begins that stands apart from them. -/
theorem takeWhile_isDigit_append
    (digits : ∀ character ∈ left, character.isDigit = true)
    (apart : BeginsApart right) :
    (left ++ right).takeWhile Char.isDigit = left := by
  rw [List.takeWhile_append_of_pos digits]
  cases right with
  | nil => exact List.append_nil left
  | cons character rest =>
      have notDigit : character.isDigit = false := apart character rfl
      rw [List.takeWhile_cons_of_neg (by rw [notDigit]; exact Bool.false_ne_true),
        List.append_nil]

theorem showsNoSign_of_isDigit
    (digits : ∀ character ∈ left, character.isDigit = true) :
    ShowsNoSign left := by
  intro character member
  have isDigit := digits character member
  constructor
  · rintro rfl
    exact absurd isDigit (by decide)
  · rintro rfl
    exact absurd isDigit (by decide)

namespace PlaceholderStyle

theorem toList_text_questionMark (used : Nat) : (questionMark.text used).toList = ['?'] := by
  rw [text]
  decide

theorem toList_text_numbered (used : Nat) :
    (numbered.text used).toList = '$' :: Nat.toDigits 10 (used + 1) := by
  rw [text, String.toList_append, Nat.toString_eq_repr, Nat.toList_repr]
  rfl

theorem isDigit_of_mem_position
    {used : Nat}
    {character : Char}
    (member : character ∈ Nat.toDigits 10 (used + 1)) :
    character.isDigit = true :=
  Nat.isDigit_of_mem_toDigits (by decide) (by decide) member

/-- A placeholder that is put before a text is found in front of those that the text shows. -/
theorem shownPlaceholders_text_append
    (style : PlaceholderStyle)
    (used : Nat)
    (apart : BeginsApart right) :
    shownPlaceholders ((style.text used).toList ++ right) =
      style.text used :: shownPlaceholders right := by
  cases style with
  | questionMark =>
      rw [toList_text_questionMark]
      rfl
  | numbered =>
      have characters := toList_text_numbered used
      have digits :
          ∀ character ∈ Nat.toDigits 10 (used + 1), character.isDigit = true :=
        fun _ member => isDigit_of_mem_position member
      have begins :
          placeholder? '$' (Nat.toDigits 10 (used + 1) ++ right) = some (numbered.text used) := by
        rw [placeholder?, if_neg (by decide), takeWhile_isDigit_append digits apart,
          if_pos ⟨rfl, Nat.toDigits_ne_nil⟩, ← characters, String.ofList_toList]
      rw [characters, List.cons_append, shownPlaceholders, begins,
        shownPlaceholders_append_of_showsNoSign (showsNoSign_of_isDigit digits)]
      rfl

end PlaceholderStyle

/-! ## Backends whose placeholders are found -/

namespace Backend

/-- The placeholders of a backend from the one on that `used` others precede. -/
def placeholders (backend : Backend) (used count : Nat) : List String :=
  (List.range' used count).map backend.placeholder

theorem placeholders_succ (backend : Backend) (used count : Nat) :
    backend.placeholders used (count + 1) =
      backend.placeholder used :: backend.placeholders (used + 1) count := rfl

theorem placeholders_append (backend : Backend) (used first second : Nat) :
    backend.placeholders used first ++ backend.placeholders (used + first) second =
      backend.placeholders used (first + second) := by
  rw [placeholders, placeholders, placeholders, ← List.map_append, List.range'_append_1]

/--
A backend whose quote mark is a single character that begins no placeholder, and which writes
placeholders and the tests of sets as a standard backend does.
-/
structure WritesPlainly (backend : Backend) (mark : Char) : Prop where
  quoteMark_eq : backend.quoteMark.toList = [mark]
  plainMark : ShowsNoSign [mark]
  numbers : ∃ style : PlaceholderStyle, backend.placeholder = style.text
  tests : ∃ style : SetStyle, backend.membership = style.test

end Backend

namespace Backend.WritesPlainly

variable {backend : Backend} {mark : Char} {name : String}

theorem showsNoSign_doubleMarks
    {characters : List Char}
    (plainMark : ShowsNoSign [mark])
    (plain : ShowsNoSign characters) :
    ShowsNoSign (doubleMarks [mark] characters) := by
  induction characters with
  | nil => rwa [doubleMarks_nil]
  | cons character rest inductionHypothesis =>
      have restPlain := inductionHypothesis fun other member =>
        plain other (List.mem_cons_of_mem character member)
      intro other member
      rw [doubleMarks_cons, List.mem_append] at member
      rcases member with isHere | isLater
      · split_ifs at isHere
        · have isMark : other = mark := by simpa using isHere
          exact plainMark other (List.mem_singleton.2 isMark)
        · rw [List.mem_singleton.1 isHere]
          exact plain character List.mem_cons_self
      · exact restPlain other isLater

/-- Enclosing adds marks only, so that it brings no sign into a name that has none. -/
theorem showsNoSign_enclose
    (plainly : backend.WritesPlainly mark)
    (plain : ShowsNoSign name.toList) :
    ShowsNoSign (backend.enclose name).toList := by
  rw [toList_enclose, plainly.quoteMark_eq]
  intro other member
  rw [List.mem_append, List.mem_append] at member
  rcases member with (isOpening | isInside) | isClosing
  · exact plainly.plainMark other isOpening
  · exact showsNoSign_doubleMarks plainly.plainMark plain other isInside
  · exact plainly.plainMark other isClosing

theorem showsNoSign_quote
    (plainly : backend.WritesPlainly mark)
    (plain : ShowsNoSign name.toList) :
    ShowsNoSign (backend.quote name).toList := by
  rw [quote]
  split_ifs
  · exact plainly.showsNoSign_enclose plain
  · exact plain

end Backend.WritesPlainly

namespace Template

variable {backend : Backend} {mark : Char} {first second template : Template}

/-- A template whose text shows the placeholders that it was made with, whatever comes next. -/
def IsLegible (backend : Backend) (template : Template) : Prop :=
  ∀ (used : Nat) (rest : List Char), BeginsApart rest →
    shownPlaceholders (template.characters backend used ++ rest) =
      backend.placeholders used template.placeholderCount ++ shownPlaceholders rest

/-- A template that can follow a placeholder. -/
def StandsApart (backend : Backend) (template : Template) : Prop :=
  ∀ (used : Nat) (rest : List Char), BeginsApart rest →
    BeginsApart (template.characters backend used ++ rest)

theorem standsApart_nil : StandsApart backend [] := fun _ _ apart => apart

theorem standsApart_word
    {text : String}
    (notEmpty : text.toList ≠ [])
    (apart : BeginsApart text.toList)
    (rest : Template) :
    StandsApart backend (.word text :: rest) := by
  intro used others _
  rw [characters_word, List.append_assoc]
  cases characters : text.toList with
  | nil => exact absurd characters notEmpty
  | cons character tail =>
      rw [characters] at apart
      exact apart

theorem isLegible_nil : IsLegible backend [] := fun _ _ _ => rfl

namespace IsLegible

theorem word
    {text : String}
    (legible : IsLegible backend template)
    (noSign : ShowsNoSign text.toList) :
    IsLegible backend (.word text :: template) := by
  intro used rest apart
  rw [characters_word, List.append_assoc,
    shownPlaceholders_append_of_showsNoSign noSign, legible used rest apart]
  rfl

theorem identifier
    {name : String}
    (legible : IsLegible backend template)
    (plainly : backend.WritesPlainly mark)
    (noSign : ShowsNoSign name.toList) :
    IsLegible backend (.identifier name :: template) := by
  have quoted := plainly.showsNoSign_quote noSign
  intro used rest apart
  rw [characters_identifier, List.append_assoc,
    shownPlaceholders_append_of_showsNoSign quoted, legible used rest apart]
  rfl

theorem label
    {name : String}
    (legible : IsLegible backend template)
    (plainly : backend.WritesPlainly mark)
    (noSign : ShowsNoSign name.toList) :
    IsLegible backend (.label name :: template) := by
  have quoted := plainly.showsNoSign_enclose noSign
  intro used rest apart
  rw [characters_label, List.append_assoc,
    shownPlaceholders_append_of_showsNoSign quoted, legible used rest apart]
  rfl

theorem placeholder
    (legible : IsLegible backend template)
    (plainly : backend.WritesPlainly mark)
    (apart : StandsApart backend template) :
    IsLegible backend (.placeholder :: template) := by
  rcases plainly.numbers with ⟨style, numbers⟩
  intro used rest restApart
  rw [characters_placeholder, List.append_assoc, numbers,
    style.shownPlaceholders_text_append _ (apart (used + 1) rest restApart),
    legible (used + 1) rest restApart, placeholderCount_placeholder, Backend.placeholders_succ,
    List.cons_append, numbers]

/-- A test of a set is as legible as its parts are. -/
theorem membership_of_test
    {style : SetStyle}
    {column : String}
    (tests : backend.membership = style.test)
    (legible : IsLegible backend (ofTest style column)) :
    IsLegible backend [.membership column] := by
  intro used rest apart
  rw [characters_membership_of_test tests]
  exact legible used rest apart

/-- Two templates in a row are legible if the second one can follow a placeholder. -/
theorem append
    (legible : IsLegible backend first)
    (others : IsLegible backend second)
    (apart : StandsApart backend second) :
    IsLegible backend (first ++ second) := by
  intro used rest restApart
  rw [characters_append, List.append_assoc, legible used _ (apart _ rest restApart),
    others _ rest restApart, placeholderCount_append, ← List.append_assoc,
    Backend.placeholders_append]

theorem separated
    {templates : List Template}
    (legible : ∀ template ∈ templates, IsLegible backend template) :
    IsLegible backend (Template.separated templates) := by
  induction templates with
  | nil => exact isLegible_nil
  | cons first others inductionHypothesis =>
      have firstLegible := legible first List.mem_cons_self
      have othersLegible := inductionHypothesis fun template member =>
        legible template (List.mem_cons_of_mem first member)
      cases others with
      | nil => exact firstLegible
      | cons second rest =>
          rw [Template.separated]
          apply firstLegible.append
          · exact othersLegible.word (by decide)
          · exact standsApart_word (by decide) (by decide) _

/-- The text of a whole statement shows the first placeholders of its backend. -/
theorem shown_render
    (legible : IsLegible backend template) :
    shownPlaceholders (template.render backend).toList =
      backend.placeholders 0 template.placeholderCount := by
  have alone := legible 0 [] fun _ member => by cases member
  rwa [List.append_nil, shownPlaceholders_nil, List.append_nil, ← toList_render] at alone

end IsLegible

end Template

end SqlMapping
