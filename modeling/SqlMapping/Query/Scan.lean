import SqlMapping.Text.Alphanumeric
import SqlMapping.Text.Blank

/-!
# Scanning SQL text

Only text outside quotes and outside parentheses shows the structure of a statement.  The
scanner marks these top-level characters; a quote runs to the next closing mark of its kind,
or to the end of the text.  A top-level word is a run of word characters that begins with a
letter or an underscore at the top level, and does not continue a longer name or number.

The main statements say that scanning marks every character once, and that two texts are
scanned one after the other from where the first one ends.
-/

namespace SqlMapping.Query

/-- The mark that closes what a quote mark opens. -/
def closingMark? : Char → Option Char
  | '"' => some '"'
  | '\x60' => some '\x60'
  | '\'' => some '\''
  | '[' => some ']'
  | _ => none

/-- Where the scanner stands: the depth of parentheses and the closing mark it waits for. -/
structure ScanState where
  depth : Int := 0
  closing : Option Char := none
deriving DecidableEq

namespace ScanState

/-- Whether a character is seen at the top level. -/
def sees (state : ScanState) (character : Char) : Bool :=
  state.closing.isNone && (closingMark? character).isNone
    && character ≠ '(' && character ≠ ')' && state.depth = 0

/-- The state after a character. -/
def next (state : ScanState) (character : Char) : ScanState :=
  match state.closing with
  | some mark => if character = mark then { state with closing := none } else state
  | none =>
    match closingMark? character with
    | some mark => { state with closing := some mark }
    | none =>
      if character = '(' then { state with depth := state.depth + 1 }
      else if character = ')' then { state with depth := state.depth - 1 }
      else state

/-- The state after a text. -/
def after (state : ScanState) (characters : List Char) : ScanState :=
  characters.foldl next state

end ScanState

/-- For every character of a text, whether it is seen at the top level. -/
def topLevel : (state : ScanState) → List Char → List Bool
  | _, [] => []
  | state, character :: rest => state.sees character :: topLevel (state.next character) rest

@[simp]
theorem topLevel_nil (state : ScanState) : topLevel state [] = [] := rfl

@[simp]
theorem length_topLevel (state : ScanState) (characters : List Char) :
    (topLevel state characters).length = characters.length := by
  induction characters generalizing state with
  | nil => rfl
  | cons character rest inductionHypothesis => simp [topLevel, inductionHypothesis]

/-- The second of two texts is scanned from where the first one ends. -/
theorem topLevel_append (state : ScanState) (left right : List Char) :
    topLevel state (left ++ right) =
      topLevel state left ++ topLevel (state.after left) right := by
  induction left generalizing state with
  | nil => rfl
  | cons character rest inductionHypothesis =>
      simp [topLevel, inductionHypothesis, ScanState.after]

/-- The positions and characters of a text that are seen at the top level. -/
def topLevelSpans (characters : List Char) : List (Nat × Char) :=
  ((characters.zip (topLevel {} characters)).zipIdx).filterMap
    fun ((character, visible), position) =>
      if visible then some (position, character) else none

/-- Whether a character can begin a word. -/
def isWordStart (character : Char) : Bool :=
  character.isAlpha || character = '_'

/-- Whether a character can continue a word. -/
def isWordCharacter (character : Char) : Bool :=
  character.isAlphanum || character = '_' || character = '$'

/-- Whether a character before a word makes it the rest of a longer name. -/
def joinsWord (character : Char) : Bool :=
  Text.isAlphanumeric character || character = '_' || character = '$' || character = '.'

/-- A word of a text: where it begins, where it ends, and its letters in upper case. -/
structure Word where
  start : Nat
  stop : Nat
  upper : List Char
deriving DecidableEq

/-- Whether a word is the given one, in any letter case. -/
def Word.is (word : Word) (keyword : String) : Bool :=
  word.upper = keyword.toList

/--
The top-level words of a marked text that begins at a position.  `joined` tells whether the
character before the text joins a word to what precedes it.
-/
def wordsFrom (position : Nat) (joined : Bool) (marked : List (Char × Bool)) : List Word :=
  match marked with
  | [] => []
  | (character, visible) :: rest =>
    if isWordStart character then
      let run := rest.takeWhile fun entry => isWordCharacter entry.1
      let remaining := rest.dropWhile fun entry => isWordCharacter entry.1
      let stop := position + 1 + run.length
      let others := wordsFrom stop true remaining
      if visible && !joined then
        ⟨position, stop, (character :: run.map Prod.fst).map Char.toUpper⟩ :: others
      else others
    else wordsFrom (position + 1) (joinsWord character) rest
termination_by marked.length
decreasing_by
  · have shorter := (List.dropWhile_suffix (fun entry : Char × Bool => isWordCharacter entry.1)
      (l := rest)).length_le
    simp only [List.length_cons]
    omega
  · simp

/-- The top-level words of a text. -/
def topLevelWords (characters : List Char) : List Word :=
  wordsFrom 0 false (characters.zip (topLevel {} characters))

/-- The part of a text between two positions. -/
def slice (characters : List Char) (start stop : Nat) : List Char :=
  (characters.drop start).take (stop - start)

end SqlMapping.Query
