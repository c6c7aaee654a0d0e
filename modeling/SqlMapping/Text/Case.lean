import SqlMapping.Text.CaseTable

/-!
# Letter case

Upper case and lower case of whole texts under the full mappings, in which one character may
become several, and the capitalised form of a word.  A capital sigma becomes the final form of
the small letter where a letter precedes it and none follows.
-/

namespace SqlMapping.Text

/-- The image of a code point in a table of runs, if a run holds it. -/
def CaseRun.image? : List CaseRun → Nat → Option Nat
  | [], _ => none
  | run :: rest, code =>
    if code < run.first then none
    else if code ≤ run.last && (code - run.first) % run.stride == 0 then
      some (run.target + (code - run.first))
    else CaseRun.image? rest code

/-- Map one character by a table of sequences and a table of runs; others stay as they are. -/
def mapCase (sequences : List (Nat × List Nat)) (runs : List CaseRun) (character : Char) :
    List Char :=
  match sequences.lookup character.toNat with
  | some codes => codes.map Char.ofNat
  | none =>
    match CaseRun.image? runs character.toNat with
    | some code => [Char.ofNat code]
    | none => [character]

/-- The upper-case form of one character. -/
def upperCharacter (character : Char) : List Char :=
  if character.toNat < 128 then [character.toUpper]
  else mapCase upperSequences upperRuns character

/-- The title-case form of one character. -/
def titleCharacter (character : Char) : List Char :=
  if character.toNat < 128 then [character.toUpper]
  else mapCase titleSequences titleRuns character

/-- The lower-case form of one character, its neighbours aside. -/
def lowerCharacter (character : Char) : List Char :=
  if character.toNat < 128 then [character.toLower]
  else mapCase lowerSequences lowerRuns character

/-- The upper-case form of a text. -/
def upperCharacters (characters : List Char) : List Char :=
  characters.flatMap upperCharacter

/-- The upper-case form of a string. -/
def upper (text : String) : String :=
  String.ofList (upperCharacters text.toList)

/--
Whether the next character that is not passed over belongs to a word; the same test looks
backward when it is given the preceding characters in reverse.
-/
def meetsCased : List Char → Bool
  | [] => false
  | character :: rest =>
    if inRanges caseIgnorableRanges character.toNat then meetsCased rest
    else inRanges casedRanges character.toNat

/-- Lower-case a text whose preceding characters, in reverse, are `before`. -/
def lowerAfter (before : List Char) : List Char → List Char
  | [] => []
  | character :: rest =>
    let image :=
      if character = 'Σ' then
        if meetsCased before && !meetsCased rest then ['ς'] else ['σ']
      else lowerCharacter character
    image ++ lowerAfter (character :: before) rest

/-- The lower-case form of a string. -/
def lower (text : String) : String :=
  String.ofList (lowerAfter [] text.toList)

/-- The capitalised form of a word: its first character in title case, the rest in lower case. -/
def capitalize (text : String) : String :=
  match text.toList with
  | [] => ""
  | first :: rest => String.ofList (titleCharacter first ++ lowerAfter [first] rest)

@[simp]
theorem upperCharacters_nil : upperCharacters [] = [] := rfl

/-- Upper-casing works character by character. -/
@[simp]
theorem upperCharacters_append (left right : List Char) :
    upperCharacters (left ++ right) = upperCharacters left ++ upperCharacters right := by
  simp [upperCharacters]

end SqlMapping.Text
