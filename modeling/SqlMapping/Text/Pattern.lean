/-!
# Patterns

A pattern is a regular expression: classes of characters, tests of a place, sequences, choices
and repetitions.  It is matched on sets of places: from the places where a part can begin, the
places where it can end are found, so that no search ever goes back.  Repetitions which lead
nowhere new are not followed.
-/

namespace SqlMapping.Text

/-- A regular expression. -/
inductive Pattern where
  | empty
  /-- One character of a class. -/
  | one (inClass : Char → Bool)
  /-- A test of the characters before and after a place, where there are any. -/
  | place (holds : Option Char → Option Char → Bool)
  | sequence (first second : Pattern)
  | choice (first second : Pattern)
  /-- A part that occurs at least so often, and at most so often if there is a bound. -/
  | repeated (least : Nat) (most : Option Nat) (inner : Pattern)

namespace Pattern

/-- Take so many steps, but none after one that changes nothing. -/
def advance (step : List Nat → List Nat) : (count : Nat) → List Nat → List Nat
  | 0, places => places
  | count + 1, places =>
    let next := step places
    if next = places then places else advance step count next

/-- Add the places that so many more steps can lead to. -/
def grow (step : List Nat → List Nat) : (count : Nat) → (fresh reached : List Nat) → List Nat
  | 0, _, reached => reached
  | count + 1, fresh, reached =>
    let next := (step fresh).filter fun place => !reached.contains place
    if next.isEmpty then reached else grow step count next (reached ++ next)

/-- The places where a pattern that begins at one of some places can end. -/
def ends (text : Array Char) : Pattern → List Nat → List Nat
  | .empty, starts => starts
  | .one inClass, starts =>
    (starts.filter fun place => text[place]?.any inClass).map (· + 1)
  | .place holds, starts =>
    starts.filter fun place =>
      holds (if place = 0 then none else text[place - 1]?) text[place]?
  | .sequence first second, starts => ends text second (ends text first starts)
  | .choice first second, starts => (ends text first starts ++ ends text second starts).eraseDups
  | .repeated least most inner, starts =>
    let step := fun places => (ends text inner places).eraseDups
    let reached := advance step least starts
    grow step ((most.map (· - least)).getD (text.size + 1)) reached reached

/-- Whether a pattern occurs anywhere in a text. -/
def occursIn (pattern : Pattern) (text : String) : Bool :=
  let characters := text.toList.toArray
  !(pattern.ends characters (List.range (characters.size + 1))).isEmpty

end Pattern

end SqlMapping.Text
