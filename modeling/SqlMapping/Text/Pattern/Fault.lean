/-!
# Faults of patterns

A text that is no pattern has a fault: a kind, and the stretch of the text to which it belongs.
A fault is shown below the line of the text that it is in, with its stretch marked.
-/

namespace SqlMapping.Text

/-- A stretch of a text, by how many characters are left where it begins and where it ends. -/
structure Span where
  start : Nat
  stop : Nat
deriving DecidableEq

namespace Span

/-- The stretch from one remainder of a text to another. -/
def between (before after : List Char) : Span := ⟨before.length, after.length⟩

/-- The empty stretch in front of a remainder. -/
def before (rest : List Char) : Span := ⟨rest.length, rest.length⟩

/-- The first character of a remainder. -/
def first (rest : List Char) : Span := ⟨rest.length, rest.length - 1⟩

end Span

/-- Why a text is no pattern. -/
inductive PatternFault.Kind where
  /-- An escape in a class stands for no characters. -/
  | placeInClass
  | reversedRange
  /-- A range of a class begins or ends with a class. -/
  | endlessRange
  | unclosedClass
  /-- A number of repetitions is too great. -/
  | excessCount
  | emptyNumber
  /-- A number belongs to no character. -/
  | noCharacter
  | noHexDigit
  | cutEscape
  | unknownEscape
  | danglingNegation
  | repeatedNegation
  | repeatedFlag
  | cutFlags
  | unknownFlag
  | repeatedName
  | emptyName
  | unusableName
  | unclosedName
  | unclosedGroup
  | unopenedGroup
  | reversedBounds
  | missingCount
  | unclosedBounds
  | nothingRepeated
  | unclosedEdge
  | unknownEdge
  | cutEdge
  | unusableProperty
  | backReference
  | lookAround
  | unknownProperty
  | unknownValue
  /-- A class of ASCII characters asks for others. -/
  | beyondAscii
  /-- A class of ASCII characters could hold a part of a character. -/
  | partOfCharacter
  | excessNesting
deriving DecidableEq

/-- A fault of a text that is no pattern. -/
structure PatternFault where
  kind : PatternFault.Kind
  span : Span
  /-- Where the same thing has stood before. -/
  earlier : Option Span := none
deriving DecidableEq

namespace PatternFault

/-- The wording of a kind of fault. -/
def Kind.message : Kind → String
  | placeInClass => "invalid escape sequence found in character class"
  | reversedRange => "invalid character class range, the start must be <= the end"
  | endlessRange => "invalid range boundary, must be a literal"
  | unclosedClass => "unclosed character class"
  | excessCount => "decimal literal invalid"
  | emptyNumber => "hexadecimal literal empty"
  | noCharacter => "hexadecimal literal is not a Unicode scalar value"
  | noHexDigit => "invalid hexadecimal digit"
  | cutEscape => "incomplete escape sequence, reached end of pattern prematurely"
  | unknownEscape => "unrecognized escape sequence"
  | danglingNegation => "dangling flag negation operator"
  | repeatedNegation => "flag negation operator repeated"
  | repeatedFlag => "duplicate flag"
  | cutFlags => "expected flag but got end of regex"
  | unknownFlag => "unrecognized flag"
  | repeatedName => "duplicate capture group name"
  | emptyName => "empty capture group name"
  | unusableName => "invalid capture group character"
  | unclosedName => "unclosed capture group name"
  | unclosedGroup => "unclosed group"
  | unopenedGroup => "unopened group"
  | reversedBounds => "invalid repetition count range, the start must be <= the end"
  | missingCount => "repetition quantifier expects a valid decimal"
  | unclosedBounds => "unclosed counted repetition"
  | nothingRepeated => "repetition operator missing expression"
  | unclosedEdge =>
    "special word boundary assertion is either unclosed or contains an invalid character"
  | unknownEdge =>
    "unrecognized special word boundary assertion, "
      ++ "valid choices are: start, end, start-half or end-half"
  | cutEdge =>
    "found either the beginning of a special word boundary or a bounded repetition on a \\b "
      ++ "with an opening brace, but no closing brace"
  | unusableProperty => "invalid Unicode character class"
  | backReference => "backreferences are not supported"
  | lookAround => "look-around, including look-ahead and look-behind, is not supported"
  | unknownProperty => "Unicode property not found"
  | unknownValue => "Unicode property value not found"
  | beyondAscii => "Unicode not allowed here"
  | partOfCharacter => "pattern can match invalid UTF-8"
  | excessNesting => "exceed the maximum number of nested parentheses/brackets (250)"

/-! ## Showing faults -/

/-- A place in a text of several lines; both numbers count from zero. -/
structure Spot where
  line : Nat
  column : Nat
deriving DecidableEq

/-- The place after some characters. -/
def Spot.after (characters : List Char) : Spot :=
  characters.foldl
    (fun spot character =>
      if character = '\n' then ⟨spot.line + 1, 0⟩ else ⟨spot.line, spot.column + 1⟩)
    ⟨0, 0⟩

/-- The place of a text where so many characters are left. -/
def Spot.leaving (text : List Char) (left : Nat) : Spot :=
  Spot.after (text.take (text.length - left))

/-- The lines of a text, without the marks of their ends. -/
def linesOf (text : List Char) : List String :=
  let pieces := (String.ofList text).splitOn "\n"
  let ended := pieces.dropLast.map fun line =>
    if line.endsWith "\r" then (line.dropEnd 1).toString else line
  match pieces.getLast? with
  | none | some "" => ended
  | some last => ended ++ [last]

/-- Marks below the columns of some stretches of a line; an empty stretch has a mark, too. -/
def marks : (column : Nat) → List (Nat × Nat) → List Char
  | _, [] => []
  | column, (start, stop) :: rest =>
    let length := max 1 (stop - start)
    List.replicate (start - column) ' ' ++ List.replicate length '^'
      ++ marks (max column start + length) rest

/-- The stretches of a fault, in the order of the text. -/
def spans (fault : PatternFault) : List Span :=
  match fault.earlier with
  | none => [fault.span]
  | some earlier => if fault.span.start ≤ earlier.start then [earlier, fault.span]
    else [fault.span, earlier]

/-- Lines with their margins, and marks below those that hold a stretch. -/
def annotate (width : Nat) (stretches : List (Spot × Spot)) :
    (line : Nat) → List String → String
  | _, [] => ""
  | line, content :: rest =>
    let number := toString (line + 1)
    let margin :=
      if width = 0 then "    "
      else String.ofList (List.replicate (width - number.length) ' ') ++ number ++ ": "
    let here := stretches.filter fun (start, _) => start.line = line
    let marked :=
      if here.isEmpty then ""
      else
        String.ofList (List.replicate (if width = 0 then 4 else width + 2) ' '
          ++ marks 0 (here.map fun (start, stop) => (start.column, stop.column))) ++ "\n"
    margin ++ content ++ "\n" ++ marked ++ annotate width stretches (line + 1) rest

/-- The note of a stretch that goes over several lines. -/
def noteOf (start stop : Spot) : String :=
  "on line " ++ toString (start.line + 1) ++ " (column " ++ toString (start.column + 1)
    ++ ") through line " ++ toString (stop.line + 1) ++ " (column " ++ toString stop.column ++ ")"

/-- The wording of a fault of a text. -/
def message (fault : PatternFault) (text : String) : String :=
  let characters := text.toList
  let stretches := fault.spans.map fun span =>
    (Spot.leaving characters span.start, Spot.leaving characters span.stop)
  let (single, multiple) := stretches.partition fun (start, stop) => start.line = stop.line
  let lines := linesOf characters
  let count := lines.length + (if characters.getLast? = some '\n' then 1 else 0)
  let width := if count ≤ 1 then 0 else (toString count).length
  let shown := annotate width single 0 lines
  let reason := "error: " ++ fault.kind.message
  if characters.contains '\n' then
    let divider := String.ofList (List.replicate 79 '~') ++ "\n"
    let notes := multiple.map fun (start, stop) => noteOf start stop
    "regex parse error:\n" ++ divider ++ shown ++ divider
      ++ (if notes.isEmpty then "" else "\n".intercalate notes ++ "\n") ++ reason
  else "regex parse error:\n" ++ shown ++ reason

end PatternFault

end SqlMapping.Text
