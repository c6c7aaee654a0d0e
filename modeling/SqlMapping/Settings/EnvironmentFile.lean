import SqlMapping.Settings

/-!
# Environment files

A file of `KEY=VALUE` lines.  A line may begin with the word `export`; a key may be put in
single quotes and a value in single or double quotes; an unquoted value ends before a blank
that is followed by a number sign.  A line of any other form is skipped.  A value may refer to
variables as `$` and a name in braces.  Variables that the environment already has are kept,
and of two lines for one key the later counts.
-/

namespace SqlMapping.EnvironmentFile

open SqlMapping.Text

/-- Write every line end as one line feed. -/
def unifyLineEnds : List Char → List Char
  | '\r' :: '\n' :: rest | '\r' :: rest => '\n' :: unifyLineEnds rest
  | character :: rest => character :: unifyLineEnds rest
  | [] => []

/-- Whether a character is a blank within a line. -/
def isInnerBlank (character : Char) : Bool := isBlank character && character ≠ '\n'

/-- What a step of the reader takes from the front of a text, and what it leaves. -/
abbrev Taken (α : Type) := Option (α × List Char)

/-- Skip the word `export` and the blanks after it, if both are there. -/
def skipExport (characters : List Char) : List Char :=
  match characters with
  | 'e' :: 'x' :: 'p' :: 'o' :: 'r' :: 't' :: blank :: rest =>
    if isInnerBlank blank then rest.dropWhile isInnerBlank else characters
  | _ => characters

/-- Take a key: a quoted one, or the characters up to an equals sign, number sign or blank. -/
def takeKey : List Char → Taken (Option (List Char))
  | '#' :: rest => some (none, '#' :: rest)
  | '\'' :: rest =>
    let key := rest.takeWhile (· ≠ '\'')
    match rest.dropWhile (· ≠ '\'') with
    | [] => none
    | _ :: after => if key.isEmpty then none else some (some key, after)
  | characters =>
    let inKey (character : Char) : Bool :=
      character ≠ '=' && character ≠ '#' && !isBlank character
    let key := characters.takeWhile inKey
    if key.isEmpty then none else some (some key, characters.dropWhile inKey)

/--
The length of a quoted text: up to the first quote mark that no backslash takes.  A backslash
takes the next character, whatever it is, and the text may run over several lines.
-/
def quotedLength? (mark : Char) : List Char → Option Nat
  | [] => none
  | '\\' :: [] => none
  | '\\' :: _ :: rest => (quotedLength? mark rest).map (· + 2)
  | character :: rest =>
    if character = mark then some 0 else (quotedLength? mark rest).map (· + 1)

/-- The character that an escape stands for inside double quotes. -/
def escapedCharacter? : Char → Option Char
  | '\\' => some '\\'
  | '\'' => some '\''
  | '"' => some '"'
  | 'a' => some '\x07'
  | 'b' => some '\x08'
  | 'f' => some '\x0c'
  | 'n' => some '\n'
  | 'r' => some '\r'
  | 't' => some '\t'
  | 'v' => some '\x0b'
  | _ => none

/-- Resolve the escapes of a quoted value; within single quotes only two of them count. -/
def resolveEscapes (mark : Char) : List Char → List Char
  | '\\' :: character :: rest =>
    let counts := mark = '"' || character = '\\' || character = '\''
    match escapedCharacter? character with
    | some image =>
      if counts then image :: resolveEscapes mark rest
      else '\\' :: resolveEscapes mark (character :: rest)
    | none => '\\' :: resolveEscapes mark (character :: rest)
  | character :: rest => character :: resolveEscapes mark rest
  | [] => []
termination_by characters => characters.length

/-- Take a value in quotes, whose opening mark has been taken. -/
def takeQuoted (mark : Char) (characters : List Char) : Taken (List Char) :=
  match quotedLength? mark characters with
  | none => none
  | some length =>
    some (resolveEscapes mark (characters.take length), characters.drop (length + 1))

/-- Cut an unquoted value before a number sign that follows a blank. -/
def cutComment : (afterBlank : Bool) → List Char → List Char
  | _, [] => []
  | afterBlank, character :: rest =>
    if afterBlank && character = '#' then []
    else character :: cutComment (isBlank character) rest

/-- Take the value after an equals sign; `afterBlank` tells whether blanks have been skipped. -/
def takeValue (afterBlank : Bool) : List Char → Taken (List Char)
  | [] => some ([], [])
  | '\'' :: rest => takeQuoted '\'' rest
  | '"' :: rest => takeQuoted '"' rest
  | characters =>
    let line := characters.takeWhile (· ≠ '\n')
    some (dropWhileEnd isBlank (cutComment afterBlank line), characters.dropWhile (· ≠ '\n'))

/-- Drop a comment, with the blanks before it, up to the end of the line. -/
def skipComment (characters : List Char) : List Char :=
  match characters.dropWhile isInnerBlank with
  | '#' :: rest => rest.dropWhile (· ≠ '\n')
  | _ => characters

/-- Take the end of a line, which nothing but blanks may precede. -/
def takeLineEnd (characters : List Char) : Option (List Char) :=
  match characters.dropWhile isInnerBlank with
  | [] => some []
  | '\n' :: rest => some rest
  | _ => none

/-- A key with its value, where the line has an equals sign. -/
abbrev Binding := String × Option String

/--
Take one line from a text that begins with no blank.  The first part is its binding, if it has
one; a line that cannot be read gives none and is skipped from where reading stopped.
-/
def takeLine (characters : List Char) : Option Binding × List Char :=
  let skip (rest : List Char) := rest.dropWhile (· ≠ '\n')
  let start := skipExport characters
  match takeKey start with
  | none => (none, skip start)
  | some (key, afterKey) =>
    let finish (value : Option (List Char)) (rest : List Char) : Option Binding × List Char :=
      let rest := skipComment rest
      match takeLineEnd rest with
      | some next => (key.map fun key => (String.ofList key, value.map String.ofList), next)
      | none => (none, skip rest)
    match afterKey.dropWhile isInnerBlank with
    | '=' :: rest =>
      let start := rest.dropWhile isInnerBlank
      match takeValue (rest.head?.any isInnerBlank) start with
      | none => (none, skip start)
      | some (value, rest) => finish (some value) rest
    | rest => finish none rest

/-- Read the bindings of a text, line by line; every line takes a character at least. -/
def readLines : (fuel : Nat) → List Char → List Binding
  | 0, _ => []
  | fuel + 1, characters =>
    match characters.dropWhile isBlank with
    | [] => []
    | start =>
      let (binding, rest) := takeLine start
      binding.toList ++ readLines fuel rest

/-- Drop the mark of the byte order, with which a file may begin. -/
def dropOrderMark : List Char → List Char
  | '\ufeff' :: rest => rest
  | rest => rest

/-- The bindings of a file, in order. -/
def bindings (content : String) : List Binding :=
  let characters := unifyLineEnds (dropOrderMark content.toList)
  readLines (characters.length + 1) characters

/-- Put a value under a key, in place if the key is there. -/
def put (key : String) (value : Option String) : List Binding → List Binding
  | [] => [(key, value)]
  | (other, old) :: rest =>
    if other = key then (key, value) :: rest else (other, old) :: put key value rest

/--
Replace the references of a value by what they stand for: the value of the named variable, or
the default after `:-`, or nothing.
-/
def expand (resolve : String → Option String) : (fuel : Nat) → List Char → List Char
  | 0, characters => characters
  | fuel + 1, characters =>
    match characters with
    | [] => []
    | '$' :: '\x7b' :: rest =>
      let name := rest.takeWhile fun character => character ≠ '\x7d' && character ≠ ':'
      match rest.dropWhile fun character => character ≠ '\x7d' && character ≠ ':' with
      | '\x7d' :: after =>
        ((resolve (String.ofList name)).getD "").toList ++ expand resolve fuel after
      | ':' :: '-' :: other =>
        let fallback := other.takeWhile (· ≠ '\x7d')
        match other.dropWhile (· ≠ '\x7d') with
        | _ :: after =>
          ((resolve (String.ofList name)).map String.toList).getD fallback
            ++ expand resolve fuel after
        | [] => '$' :: '\x7b' :: expand resolve fuel rest
      | _ => '$' :: '\x7b' :: expand resolve fuel rest
    | character :: rest => character :: expand resolve fuel rest

/-- The variables that a file sets, with their references replaced. -/
def resolved (environment : List (String × String)) (content : String) : List Binding :=
  (bindings content).foldl
    (fun known (key, value) =>
      let resolve (name : String) : Option String :=
        (environment.lookup name).or ((known.lookup name).map fun bound => bound.getD "")
      put key (value.map fun text =>
        String.ofList (expand resolve (text.toList.length + 1) text.toList)) known)
    []

/-- Refuse a variable that no environment can have. -/
def checkVariable (key value : String) : Except SettingsError (String × String) :=
  if key.toList.contains '\x00' || value.toList.contains '\x00' then
    .error (.illegalName true)
  else if key.toList.contains '=' then .error (.illegalName false)
  else .ok (key, value)

/--
The environment after a file has been loaded: variables that were there are kept, others get
the value of the last line that names them.
-/
def load (environment : List (String × String)) (content : String) :
    Except SettingsError (List (String × String)) := do
  let added := (resolved environment content).filterMap fun (key, value) =>
    if (environment.lookup key).isSome then none else value.map fun text => (key, text)
  return environment ++ (← added.mapM fun (key, value) => checkVariable key value)

end SqlMapping.EnvironmentFile
