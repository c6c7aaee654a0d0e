import Mathlib.Data.List.TakeWhile
import SqlMapping.Text.Blank

/-!
# Trimming

Trimming forgets the blanks around a text and nothing else.

The main statements say that blanks added on either side are removed again, and that a text
without blanks at its ends stays as it is.
-/

namespace SqlMapping.Text

variable {inClass : Char → Bool} {characters left right : List Char}

/-- What is dropped from the end of a text may be there already. -/
theorem dropWhileEnd_append
    (dropped : ∀ character ∈ right, inClass character = true) :
    dropWhileEnd inClass (left ++ right) = dropWhileEnd inClass left := by
  have reversed : ∀ character ∈ right.reverse, inClass character = true := by
    intro character member
    exact dropped character (List.mem_reverse.1 member)
  rw [dropWhileEnd, List.reverse_append, List.dropWhile_append_of_pos reversed, dropWhileEnd]

/-- A text stays as it is at an end that is not of the class. -/
theorem dropWhileEnd_of_getLast?
    (ends : ∀ last ∈ characters.getLast?, inClass last = false) :
    dropWhileEnd inClass characters = characters := by
  rcases List.eq_nil_or_concat characters with rfl | ⟨before, last, rfl⟩
  · rfl
  · have stays : inClass last = false := ends last (by simp)
    simp [dropWhileEnd, stays]

theorem dropWhile_of_head?
    (begins : ∀ first ∈ characters.head?, inClass first = false) :
    characters.dropWhile inClass = characters := by
  cases characters with
  | nil => rfl
  | cons first rest => simp [begins first rfl]

/-- Trimming removes what was put in front of a text. -/
theorem trimBlanks_append_left
    (blank : ∀ character ∈ left, isBlank character = true)
    (characters : List Char) :
    trimBlanks (left ++ characters) = trimBlanks characters := by
  rw [trimBlanks, trimBoth, List.dropWhile_append_of_pos blank]
  rfl

/-- Trimming removes what was put behind a text. -/
theorem trimBlanks_append_right
    (blank : ∀ character ∈ right, isBlank character = true)
    (characters : List Char) :
    trimBlanks (characters ++ right) = trimBlanks characters := by
  rw [trimBlanks, trimBoth, trimBlanks, trimBoth, List.dropWhile_append]
  split_ifs with nothing
  · have empty : characters.dropWhile isBlank = [] := List.isEmpty_iff.1 nothing
    rw [empty, List.dropWhile_eq_nil_iff.2 blank]
  · exact dropWhileEnd_append blank

/-- What is trimmed off a text are blanks. -/
theorem exists_append_trimBlanks (characters : List Char) :
    ∃ before after : List Char,
      (∀ character ∈ before, isBlank character = true) ∧
        (∀ character ∈ after, isBlank character = true) ∧
          characters = before ++ (trimBlanks characters ++ after) := by
  obtain ⟨after, afterBlank, split⟩ :=
    exists_dropWhileEnd_append isBlank (characters.dropWhile isBlank)
  refine ⟨characters.takeWhile isBlank, after, fun character taken => ?_, afterBlank, ?_⟩
  · exact List.all_eq_true.1 List.all_takeWhile character taken
  · rw [trimBlanks, trimBoth, ← split, List.takeWhile_append_dropWhile]

/-- A text consists of blanks and a text that begins with none. -/
theorem exists_blanks_append (characters : List Char) :
    ∃ gap front : List Char,
      characters = gap ++ front ∧
        (∀ character ∈ gap, isBlank character = true) ∧
          ∀ first ∈ front.head?, isBlank first = false := by
  refine
    ⟨characters.takeWhile isBlank, characters.dropWhile isBlank,
      List.takeWhile_append_dropWhile.symm,
      fun character taken => List.all_eq_true.1 List.all_takeWhile character taken,
      fun first isFirst => ?_⟩
  have stops := List.head?_dropWhile_not isBlank characters
  rw [Option.mem_def.1 isFirst] at stops
  simpa using stops

/-- A text that neither begins nor ends with a blank is trimmed. -/
theorem trimBlanks_of_ends
    (begins : ∀ first ∈ characters.head?, isBlank first = false)
    (ends : ∀ last ∈ characters.getLast?, isBlank last = false) :
    trimBlanks characters = characters := by
  rw [trimBlanks, trimBoth, dropWhile_of_head? begins, dropWhileEnd_of_getLast? ends]

/-- What is not blank is left by trimming. -/
theorem trimBlanks_ne_nil
    {character : Char}
    (member : character ∈ characters)
    (visible : isBlank character = false) :
    trimBlanks characters ≠ [] := by
  intro empty
  have reversed : (characters.dropWhile isBlank).reverse.dropWhile isBlank = [] :=
    List.reverse_eq_nil_iff.1 empty
  have nothing : characters.dropWhile isBlank = [] := by
    cases rest : characters.dropWhile isBlank with
    | nil => rfl
    | cons first others =>
        have begins : isBlank first = false := by
          have stops := List.head?_dropWhile_not isBlank characters
          simpa [rest] using stops
        have isGone := List.dropWhile_eq_nil_iff.1 reversed first (by simp [rest])
        rw [begins] at isGone
        cases isGone
  have isGone := List.dropWhile_eq_nil_iff.1 nothing character member
  rw [visible] at isGone
  cases isGone

end SqlMapping.Text
