import SqlMapping.Statement

/-!
# Rendered templates

The text of a template is put together from the texts of its parts, and placeholders are
numbered across the parts.

The main statements give the characters of a template part by part.
-/

namespace SqlMapping

namespace Template

/-- The characters of a template that `used` placeholders precede. -/
def characters (backend : Backend) (used : Nat) (template : Template) : List Char :=
  (template.texts backend used).flatMap String.toList

theorem toList_render (backend : Backend) (template : Template) :
    (template.render backend).toList = template.characters backend 0 :=
  String.toList_join

@[simp]
theorem characters_nil (backend : Backend) (used : Nat) : characters backend used [] = [] := rfl

@[simp]
theorem characters_append (backend : Backend) (used : Nat) (left right : Template) :
    characters backend used (left ++ right) =
      characters backend used left
        ++ characters backend (used + left.placeholderCount) right := by
  simp [characters, texts_append]

@[simp]
theorem characters_word (backend : Backend) (used : Nat) (text : String) (rest : Template) :
    characters backend used (.word text :: rest) =
      text.toList ++ characters backend used rest := rfl

@[simp]
theorem characters_identifier (backend : Backend) (used : Nat) (name : String) (rest : Template) :
    characters backend used (.identifier name :: rest) =
      (backend.quote name).toList ++ characters backend used rest := rfl

@[simp]
theorem characters_label (backend : Backend) (used : Nat) (name : String) (rest : Template) :
    characters backend used (.label name :: rest) =
      (backend.enclose name).toList ++ characters backend used rest := rfl

@[simp]
theorem characters_placeholder (backend : Backend) (used : Nat) (rest : Template) :
    characters backend used (.placeholder :: rest) =
      (backend.placeholder used).toList ++ characters backend (used + 1) rest := rfl

@[simp]
theorem characters_membership (backend : Backend) (used : Nat) (column : String)
    (rest : Template) :
    characters backend used (.membership column :: rest) =
      (backend.membership (backend.quote column) (backend.placeholder used)).toList
        ++ characters backend (used + 1) rest := rfl

@[simp]
theorem placeholderCount_nil : placeholderCount [] = 0 := rfl

@[simp]
theorem placeholderCount_append (left right : Template) :
    placeholderCount (left ++ right) = left.placeholderCount + right.placeholderCount :=
  List.countP_append

@[simp]
theorem placeholderCount_word (text : String) (rest : Template) :
    placeholderCount (.word text :: rest) = rest.placeholderCount := rfl

@[simp]
theorem placeholderCount_identifier (name : String) (rest : Template) :
    placeholderCount (.identifier name :: rest) = rest.placeholderCount := rfl

@[simp]
theorem placeholderCount_placeholder (rest : Template) :
    placeholderCount (.placeholder :: rest) = rest.placeholderCount + 1 :=
  List.countP_cons_of_pos rfl

@[simp]
theorem placeholderCount_membership (column : String) (rest : Template) :
    placeholderCount (.membership column :: rest) = rest.placeholderCount + 1 :=
  List.countP_cons_of_pos rfl

/-- A template without placeholders has the same text wherever it stands. -/
theorem characters_of_fixed
    {template : Template}
    (fixed : template.placeholderCount = 0)
    (backend : Backend)
    (used : Nat) :
    characters backend used template = characters backend 0 template := by
  induction template with
  | nil => rfl
  | cons piece rest inductionHypothesis =>
      cases piece with
      | word text => rw [characters_word, characters_word, inductionHypothesis fixed]
      | identifier name =>
          rw [characters_identifier, characters_identifier, inductionHypothesis fixed]
      | label name => rw [characters_label, characters_label, inductionHypothesis fixed]
      | placeholder =>
          rw [placeholderCount_placeholder] at fixed
          cases fixed
      | membership column =>
          rw [placeholderCount_membership] at fixed
          cases fixed

/-- The parts of the test that a column is in the set at a placeholder, in a standard style. -/
def ofTest (style : SetStyle) (column : String) : Template :=
  [.identifier column, .word style.frame.1, .placeholder, .word style.frame.2]

/-- A test in a standard style is written as its parts are. -/
theorem characters_membership_of_test
    {backend : Backend}
    {style : SetStyle}
    (tests : backend.membership = style.test)
    (used : Nat)
    (column : String) :
    characters backend used [.membership column] =
      characters backend used (ofTest style column) := by
  rw [ofTest, characters_membership, tests, SetStyle.test]
  simp

end Template

end SqlMapping
