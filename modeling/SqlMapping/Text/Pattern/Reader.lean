import SqlMapping.Text.Pattern.Meaning

/-!
# Reading patterns

A pattern is written as alternatives of sequences of parts.  A part is an atom, a class in
brackets or a group in parentheses, and may be repeated.  Looking around and references to groups
are not read.  A flag lets blanks and comments stand in a pattern, and every step of the reader
passes over them then.

The main statement says that nothing is passed over without that flag.
-/

namespace SqlMapping.Text.Pattern

/-- What reading a pattern gives, or the fault at which it ends. -/
abbrev Reading := Except PatternFault

/-- What a step of the reader takes from the front of a text, and what it leaves. -/
abbrev Taken (α : Type) := α × List Char

/-- The end of reading at a fault. -/
def stop {α : Type} (kind : PatternFault.Kind) (span : Span) : Reading α :=
  .error ⟨kind, span, none⟩

/-! ## Blanks -/

/-- Skip blanks, and comments up to the end of their line. -/
def skipComments : (inComment : Bool) → List Char → List Char
  | _, [] => []
  | true, character :: rest => skipComments (character ≠ '\n') rest
  | false, character :: rest =>
    if character = '#' then skipComments true rest
    else if isWhiteSpace character then skipComments false rest
    else character :: rest

/-- Skip blanks where they do not belong to the pattern. -/
def skip (skipsBlanks : Bool) (characters : List Char) : List Char :=
  if skipsBlanks then skipComments false characters else characters

/-- Where blanks belong to the pattern, none is skipped. -/
@[simp]
theorem skip_false (characters : List Char) : skip false characters = characters := rfl

/-! ## Escapes -/

/-- The value of a hexadecimal digit. -/
def hexDigit? (digit : Char) : Option Nat :=
  if !isHexDigit digit then none
  else if digit.isDigit then some (digit.toNat - '0'.toNat)
  else some (digit.toLower.toNat - 'a'.toNat + 10)

/-- The number that hexadecimal digits write. -/
def hexNumber (digits : List Char) : Nat :=
  digits.foldl (fun value digit => value * 16 + (hexDigit? digit).getD 0) 0

/-- Read as many hexadecimal digits. -/
def parseHexDigits (skipsBlanks : Bool) : (count : Nat) → List Char → Reading (Taken (List Char))
  | 0, characters => .ok ([], characters)
  | _ + 1, [] => stop .cutEscape (.before [])
  | count + 1, digit :: rest => do
    if (hexDigit? digit).isNone then stop .noHexDigit (.first (digit :: rest))
    else
      let (others, after) ← parseHexDigits skipsBlanks count (skip skipsBlanks rest)
      return (digit :: others, after)

/-- Read hexadecimal digits up to a closing brace; the text from the opening one is given. -/
def parseHexBraced (skipsBlanks : Bool) (opening : List Char) :
    List Char → Reading (Taken (List Char))
  | [] => stop .cutEscape (.between opening [])
  | digit :: rest => do
    if digit = '\x7d' then return ([], rest)
    else if skipsBlanks && isWhiteSpace digit then parseHexBraced skipsBlanks opening rest
    else if (hexDigit? digit).isNone then stop .noHexDigit (.first (digit :: rest))
    else
      let (others, after) ← parseHexBraced skipsBlanks opening rest
      return (digit :: others, after)

/-- Read the number of a character: so many hexadecimal digits, or any number in braces. -/
def parseCodePoint (skipsBlanks : Bool) (digits : Nat) (characters : List Char) :
    Reading (Taken Atom) := do
  match skip skipsBlanks characters with
  | '\x7b' :: rest =>
    let opening := '\x7b' :: rest
    let (content, after) ← parseHexBraced skipsBlanks opening rest
    if content.isEmpty then stop .emptyNumber (.between opening after)
    else if (hexNumber content).isValidChar then
      return (.literal (Char.ofNat (hexNumber content)), after)
    else stop .noCharacter ⟨rest.length, after.length + 1⟩
  | start =>
    if start.isEmpty then stop .cutEscape (.before [])
    else
      let (content, after) ← parseHexDigits skipsBlanks digits start
      if (hexNumber content).isValidChar then
        return (.literal (Char.ofNat (hexNumber content)), after)
      else stop .noCharacter (.between start after)

/-- Read the name of a property after its letter. -/
def parseProperty (skipsBlanks negated : Bool) (characters : List Char) : Reading (Taken Atom) :=
  match skip skipsBlanks characters with
  | [] => stop .cutEscape (.before [])
  | '\x7b' :: rest =>
    match rest.dropWhile (· ≠ '\x7d') with
    | [] => stop .cutEscape (.before [])
    | _ :: after =>
      let name := (rest.takeWhile (· ≠ '\x7d')).filter fun character =>
        !(skipsBlanks && isWhiteSpace character)
      .ok (.property name negated, after)
  | '\\' :: rest => stop .unusableProperty (.first ('\\' :: rest))
  | letter :: rest => .ok (.property [letter] negated, rest)

/-- Whether a character can stand in the name of a word's edge. -/
def isEdgeLetter (character : Char) : Bool :=
  character.isAlpha || character = '-'

/-- The tests of a word's edge that have a name. -/
def namedEdge? : String → Option Place
  | "start" => some .wordStart
  | "end" => some .wordEnd
  | "start-half" => some .outsideBefore
  | "end-half" => some .outsideAfter
  | _ => none

/-- Read the kind of a word's edge after its letter; braces may also begin a repetition. -/
def parseWordEdge (skipsBlanks : Bool) (escape characters : List Char) : Reading (Taken Atom) :=
  match characters with
  | '\x7b' :: rest =>
    let inner := skip skipsBlanks rest
    let name := inner.takeWhile isEdgeLetter
    let after := skip skipsBlanks (inner.dropWhile isEdgeLetter)
    if inner.isEmpty then stop .cutEdge (.between escape [])
    else if name.isEmpty then .ok (.place .wordEdge, characters)
    else
      match after with
      | '\x7d' :: others =>
        match namedEdge? (String.ofList name) with
        | some test => .ok (.place test, others)
        | none => stop .unknownEdge (.between inner after)
      | _ => stop .unclosedEdge (.between characters after)
  | _ => .ok (.place .wordEdge, characters)

/-- What a letter or a mark stands for after a backslash. -/
def escaped? : Char → Option Atom
  | 'd' => some (.named .digit false)
  | 's' => some (.named .space false)
  | 'w' => some (.named .word false)
  | 'D' => some (.named .digit true)
  | 'S' => some (.named .space true)
  | 'W' => some (.named .word true)
  | 'A' => some (.place .textStart)
  | 'z' => some (.place .textEnd)
  | 'B' => some (.place .noWordEdge)
  | '<' => some (.place .wordStart)
  | '>' => some (.place .wordEnd)
  | 'n' => some (.literal '\n')
  | 'r' => some (.literal '\r')
  | 't' => some (.literal '\t')
  | 'f' => some (.literal '\x0c')
  | 'v' => some (.literal '\x0b')
  | 'a' => some (.literal '\x07')
  | mark => if mark.isAlphanum || 128 ≤ mark.toNat then none else some (.literal mark)

/-- Read an escape, which begins with a backslash. -/
def parseEscape (skipsBlanks : Bool) (escape : List Char) : Reading (Taken Atom) :=
  match escape.drop 1 with
  | [] => stop .cutEscape (.between escape [])
  | 'x' :: rest => parseCodePoint skipsBlanks 2 rest
  | 'u' :: rest => parseCodePoint skipsBlanks 4 rest
  | 'U' :: rest => parseCodePoint skipsBlanks 8 rest
  | 'p' :: rest => parseProperty skipsBlanks false rest
  | 'P' :: rest => parseProperty skipsBlanks true rest
  | 'b' :: rest => parseWordEdge skipsBlanks escape rest
  | letter :: rest =>
    if letter.isDigit then stop .backReference (.between escape rest)
    else
      match escaped? letter with
      | some atom => .ok (atom, rest)
      | none => stop .unknownEscape (.between escape rest)

/-! ## Classes in brackets -/

/-- Read a named class of ASCII characters, whose opening bracket has been taken. -/
def parseAsciiClass? (characters : List Char) : Option (ClassTree × List Char) :=
  let named (negated : Bool) (rest : List Char) : Option (ClassTree × List Char) :=
    let name := String.ofList (rest.takeWhile Char.isLower)
    match rest.dropWhile Char.isLower with
    | ':' :: ']' :: after =>
      (Mode.asciiClasses.lookup name).map fun _ => (.ascii name negated, after)
    | _ => none
  match characters with
  | ':' :: '^' :: rest => named true rest
  | ':' :: rest => named false rest
  | _ => none

/-- Read a character or an escape of a class that is not at its end. -/
def parseMember (skipsBlanks : Bool) (characters : List Char) : Reading (Taken (Span × Atom)) := do
  match characters with
  | '\\' :: _ =>
    let (atom, after) ← parseEscape skipsBlanks characters
    return ((.between characters after, atom), after)
  | character :: rest => return ((.first characters, .literal character), rest)
  | [] => stop .unclosedClass (.before [])

/-- An atom as a member of a class. -/
def asMember : Span × Atom → Reading ClassTree
  | (span, .place _) => stop .placeInClass span
  | (span, atom) => .ok (.atom span atom)

/-- An atom as an end of a range. -/
def asRangeEnd : Span × Atom → Reading Char
  | (_, .literal character) => .ok character
  | (span, _) => stop .endlessRange span

/-- Read a member of a class or a range of members; where the class was opened is given. -/
def parseRange (skipsBlanks : Bool) (opening : Span) (characters : List Char) :
    Reading (Taken ClassTree) := do
  let (low, rest) ← parseMember skipsBlanks characters
  let alone : Reading (Taken ClassTree) := do return (← asMember low, skip skipsBlanks rest)
  match skip skipsBlanks rest with
  | [] => stop .unclosedClass opening
  | '-' :: others =>
    match skip skipsBlanks others with
    | [] => stop .unclosedClass opening
    | ']' :: _ => alone
    | '-' :: _ => alone
    | others =>
      let (high, after) ← parseMember skipsBlanks others
      let first ← asRangeEnd low
      let last ← asRangeEnd high
      let span : Span := ⟨low.1.start, high.1.stop⟩
      if last < first then stop .reversedRange span
      else return (.range span first last, after)
  | _ => alone

/-- The operator of two marks. -/
def operator? : (first second : Char) → Option Operator
  | '&', '&' => some .both
  | '-', '-' => some .without
  | '~', '~' => some .either
  | _, _ => none

/--
Read the front of a class: what makes it negative, and the hyphens or the bracket that stand for
themselves there.
-/
def parseFront (skipsBlanks : Bool) (bracket : List Char) : Reading (Taken (Bool × ClassTree)) := do
  let unclosed := stop .unclosedClass (.between bracket [])
  let inner := skip skipsBlanks (bracket.drop 1)
  let negated := inner.head? = some '^'
  let rest := if negated then skip skipsBlanks (inner.drop 1) else inner
  let isHyphen (character : Char) : Bool :=
    character = '-' || (skipsBlanks && isWhiteSpace character)
  match rest with
  | [] => unclosed
  | '-' :: _ =>
    let after := rest.dropWhile isHyphen
    if after.isEmpty then stop .unclosedClass (.before bracket)
    else return ((negated, .atom (.first rest) (.literal '-')), after)
  | ']' :: others =>
    let after := skip skipsBlanks others
    if after.isEmpty then unclosed
    else return ((negated, .atom (.first rest) (.literal ']')), after)
  | _ => return ((negated, .nothing), rest)

mutual

/-- Read a class, which begins with its opening bracket. -/
def parseClass : (fuel : Nat) → (skipsBlanks : Bool) → List Char → Reading (Taken ClassTree)
  | 0, _, bracket => stop .excessNesting (.first bracket)
  | fuel + 1, skipsBlanks, bracket => do
    let ((negated, front), rest) ← parseFront skipsBlanks bracket
    let (inner, after) ←
      parseMembers fuel skipsBlanks (.between bracket rest) none front rest
    return (.nested (.between bracket after) negated inner, after)

/--
Read members up to the closing bracket.  Where the class was opened is given, and the operator
with its left side whose right side is being read.
-/
def parseMembers : (fuel : Nat) → (skipsBlanks : Bool) → (opening : Span) →
    (pending : Option (Operator × ClassTree)) → (members : ClassTree) → List Char →
    Reading (Taken ClassTree)
  | 0, _, opening, _, _, _ => stop .excessNesting opening
  | fuel + 1, skipsBlanks, opening, pending, members, characters =>
    let complete :=
      match pending with
      | some (operator, left) => ClassTree.operation operator left members
      | none => members
    let also (read : Reading (Taken ClassTree)) : Reading (Taken ClassTree) := do
      let (member, after) ← read
      parseMembers fuel skipsBlanks opening pending (.union members member) after
    match skip skipsBlanks characters with
    | [] => stop .unclosedClass opening
    | ']' :: rest => .ok (complete, rest)
    | '[' :: rest =>
      match parseAsciiClass? rest with
      | some read => also (.ok read)
      | none => also (parseClass fuel skipsBlanks ('[' :: rest))
    | first :: rest =>
      match rest.head?.bind (operator? first) with
      | some operator =>
        parseMembers fuel skipsBlanks opening (some (operator, complete)) .nothing (rest.drop 1)
      | none => also (parseRange skipsBlanks opening (first :: rest))

end

/-! ## Repetitions -/

/-- The bound below which numbers of repetitions lie. -/
def countBound : Nat := 4294967296

/-- Read a number of repetitions, with white space around it; the number may be missing. -/
def parseCount (skipsBlanks : Bool) (characters : List Char) :
    Reading Nat × List Char :=
  let start := characters.dropWhile isWhiteSpace
  let digits := start.takeWhile Char.isDigit
  let after := start.dropWhile Char.isDigit
  let span := Span.between start after
  let count := digits.foldl (fun value digit => value * 10 + (digit.toNat - '0'.toNat)) 0
  let number : Reading Nat :=
    if digits.isEmpty then stop .missingCount span
    else if countBound ≤ count then stop .excessCount span
    else .ok count
  (number, skip skipsBlanks (after.dropWhile isWhiteSpace))

/-- Skip the mark that makes a repetition take as little as possible. -/
def skipLazy : List Char → List Char
  | '?' :: rest => rest
  | rest => rest

/-- Read the bounds of a repetition, which begin with their opening brace. -/
def parseBounds (skipsBlanks : Bool) (brace : List Char) : Reading (Taken (Nat × Option Nat)) := do
  let unclosed (rest : List Char) : Reading (Taken (Nat × Option Nat)) :=
    stop .unclosedBounds (.between brace rest)
  let finish (least : Nat) (most : Option Nat) (rest : List Char) :
      Reading (Taken (Nat × Option Nat)) :=
    match rest with
    | '\x7d' :: rest =>
      let after := skipLazy (skip skipsBlanks rest)
      if most.any (· < least) then stop .reversedBounds (.between brace after)
      else .ok ((least, most), after)
    | rest => unclosed rest
  let start := skip skipsBlanks (brace.drop 1)
  let (least, rest) := parseCount skipsBlanks start
  if start.isEmpty then unclosed []
  else
    match rest with
    | [] => unclosed []
    | ',' :: others =>
      match skip skipsBlanks others with
      | [] => unclosed []
      | '\x7d' :: after => finish (← least) none ('\x7d' :: after)
      | others =>
        let least ← least
        let (most, after) := parseCount skipsBlanks others
        finish least (some (← most)) after
    | rest =>
      let count ← least
      finish count (some count) rest

/-- Read the repetitions that follow a part. -/
def parseRepetitions : (fuel : Nat) → (skipsBlanks : Bool) → Tree → List Char → Reading (Taken Tree)
  | 0, _, part, characters => .ok (part, characters)
  | fuel + 1, skipsBlanks, part, characters =>
    let again (least : Nat) (most : Option Nat) (rest : List Char) : Reading (Taken Tree) :=
      parseRepetitions fuel skipsBlanks (.repeated least most part) rest
    match skip skipsBlanks characters with
    | '*' :: rest => again 0 none (skipLazy rest)
    | '+' :: rest => again 1 none (skipLazy rest)
    | '?' :: rest => again 0 (some 1) (skipLazy rest)
    | '\x7b' :: rest => do
      let ((least, most), after) ← parseBounds skipsBlanks ('\x7b' :: rest)
      again least most after
    | rest => .ok (part, rest)

/-! ## Groups -/

/-- What the reader keeps in mind. -/
structure Memory where
  /-- Whether blanks do not belong to the pattern. -/
  skipsBlanks : Bool := false
  /-- The names of groups, and where they stand. -/
  names : List (List Char × Span) := []

/-- The letters that flags can have. -/
def flagLetters : List Char := ['i', 'm', 's', 'U', 'R', 'u', 'x']

/-- Read flags up to the mark after them; those that have been read are given. -/
def parseFlags (taken : List (Char × Span)) : List Char → Reading (Taken (List (Char × Span)))
  | [] => stop .cutFlags (.before [])
  | mark :: rest =>
    let here := Span.first (mark :: rest)
    if mark = ':' || mark = ')' then
      match taken.getLast? with
      | some ('-', span) => stop .danglingNegation span
      | _ => .ok (taken, mark :: rest)
    else if mark ≠ '-' && !flagLetters.contains mark then stop .unknownFlag here
    else
      match taken.lookup mark with
      | some earlier =>
        .error ⟨if mark = '-' then .repeatedNegation else .repeatedFlag, here, some earlier⟩
      | none => parseFlags (taken ++ [(mark, here)]) rest

/-- The flags that letters set; those after a hyphen are switched off. -/
def flagsOf (letters : List Char) : List (Char × Bool) :=
  (letters.takeWhile (· ≠ '-')).map (fun letter => (letter, true))
    ++ ((letters.dropWhile (· ≠ '-')).drop 1).map fun letter => (letter, false)

/-- Whether a character can stand in the name of a group. -/
def isNameCharacter (isFirst : Bool) (character : Char) : Bool :=
  character = '_' || isAlphabetic character
    || (!isFirst
      && (['.', '[', ']'].contains character || Category.anyHolds Category.numbers character))

/-- Read the name of a group up to the mark after it. -/
def parseGroupName : (isFirst : Bool) → List Char → Reading (Taken (List Char))
  | _, [] => stop .unclosedName (.before [])
  | isFirst, character :: rest => do
    if character = '>' then return ([], rest)
    else if !isNameCharacter isFirst character then
      stop .unusableName (.first (character :: rest))
    else
      let (others, after) ← parseGroupName false rest
      return (character :: others, after)

/-- How a group begins. -/
inductive Opening where
  /-- A group with flags that hold in it. -/
  | group (flags : List (Char × Bool))
  /-- A change of flags for the rest of the group around it. -/
  | change (flags : List (Char × Bool))

/-- Read a group's name, which starts after its opening mark. -/
def parseNamed (memory : Memory) (start : List Char) : Reading (Taken (Opening × Memory)) := do
  let (name, after) ← parseGroupName true start
  let span : Span := ⟨start.length, after.length + 1⟩
  if name.isEmpty then stop .emptyName (.before start)
  else
    match memory.names.lookup name with
    | some earlier => .error ⟨.repeatedName, span, some earlier⟩
    | none => return ((.group [], { memory with names := (name, span) :: memory.names }), after)

/-- Read how a group begins, from its parenthesis on. -/
def parseOpening (memory : Memory) (parenthesis : List Char) :
    Reading (Taken (Opening × Memory)) := do
  let start := skip memory.skipsBlanks (parenthesis.drop 1)
  match start with
  | '?' :: '=' :: rest => stop .lookAround (.between parenthesis rest)
  | '?' :: '!' :: rest => stop .lookAround (.between parenthesis rest)
  | '?' :: '<' :: '=' :: rest => stop .lookAround (.between parenthesis rest)
  | '?' :: '<' :: '!' :: rest => stop .lookAround (.between parenthesis rest)
  | '?' :: 'P' :: '<' :: rest => parseNamed memory rest
  | '?' :: '<' :: rest => parseNamed memory rest
  | '?' :: [] => stop .unclosedGroup (.first parenthesis)
  | '?' :: rest =>
    let (letters, after) ← parseFlags [] rest
    let flags := flagsOf (letters.map Prod.fst)
    let changed :=
      { memory with skipsBlanks := (flags.lookup 'x').getD memory.skipsBlanks }
    if after.head? = some ':' then return ((.group flags, changed), after.drop 1)
    else if letters.isEmpty then stop .nothingRepeated (.before start)
    else return ((.change flags, changed), after.drop 1)
  | rest => return ((.group [], memory), rest)

/-- Read an atom, a point or a class. -/
def parsePart (skipsBlanks : Bool) (characters : List Char) : Reading (Taken Tree) := do
  match characters with
  | [] => return (.empty, [])
  | '[' :: rest =>
    let (inner, after) ← parseClass (2 * rest.length + 2) skipsBlanks characters
    return (.bracket inner, after)
  | '\\' :: _ =>
    let (atom, after) ← parseEscape skipsBlanks characters
    return (.atom (.between characters after) atom, after)
  | '.' :: rest => return (.point (.first characters), rest)
  | '^' :: rest => return (.atom (.first characters) (.place .lineStart), rest)
  | '$' :: rest => return (.atom (.first characters) (.place .lineEnd), rest)
  | character :: rest =>
    if ['*', '+', '?', '\x7b'].contains character then
      stop .nothingRepeated (.before characters)
    else return (.atom (.first characters) (.literal character), rest)

mutual

/-- Read alternatives. -/
def parseChoice : (fuel : Nat) → Memory → List Char → Reading (Taken (Tree × Memory))
  | 0, _, characters => stop .excessNesting (.first characters)
  | fuel + 1, memory, characters => do
    let ((first, memory), rest) ← parseSequence fuel memory characters
    match rest with
    | '|' :: others =>
      let ((second, memory), after) ← parseChoice fuel memory others
      return ((.choice first second, memory), after)
    | _ => return ((first, memory), rest)

/-- Read parts up to the end of an alternative. -/
def parseSequence : (fuel : Nat) → Memory → List Char → Reading (Taken (Tree × Memory))
  | 0, _, characters => stop .excessNesting (.first characters)
  | fuel + 1, memory, characters =>
    let andThen (memory : Memory) (part : Tree) (rest : List Char) :
        Reading (Taken (Tree × Memory)) := do
      let (part, after) ← parseRepetitions rest.length memory.skipsBlanks part rest
      let ((others, memory), after) ← parseSequence fuel memory after
      return ((.sequence part others, memory), after)
    let start := skip memory.skipsBlanks characters
    match start with
    | [] => .ok ((.empty, memory), [])
    | '|' :: _ => .ok ((.empty, memory), start)
    | ')' :: _ => .ok ((.empty, memory), start)
    | '(' :: _ => do
      match ← parseOpening memory start with
      | ((.change flags, changed), after) =>
        let ((others, memory), after) ← parseSequence fuel changed after
        return ((.sequence (.change flags) others, memory), after)
      | ((.group flags, inside), after) =>
        match ← parseChoice fuel inside after with
        | ((inner, reached), ')' :: after) =>
          andThen { reached with skipsBlanks := memory.skipsBlanks } (.group flags inner) after
        | _ => stop .unclosedGroup (.first start)
    | start => do
      let (part, after) ← parsePart memory.skipsBlanks start
      andThen memory part after

end

/-- The tree of a text. -/
def treeOf (text : String) : Reading Tree := do
  match ← parseChoice (4 * text.length + 8) {} text.toList with
  | ((tree, _), []) => return tree
  | (_, rest) => stop .unopenedGroup (.first rest)

/-- The pattern of a text. -/
def ofText (text : String) : Reading Pattern := do
  let tree ← treeOf text
  let (pattern, _) ← Mode.patternOf {} tree
  return pattern

end SqlMapping.Text.Pattern
