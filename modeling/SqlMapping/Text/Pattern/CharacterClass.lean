import SqlMapping.Text.Fold
import SqlMapping.Text.Pattern.Tree
import SqlMapping.Text.Property

/-!
# Classes and places of a pattern

Which characters a class holds and where a place is.  Both depend on the mode that the flags of
a pattern make: whether letter case matters, what ends a line, and whether only ASCII characters
have properties.
-/

namespace SqlMapping.Text.Pattern

/-- What the flags of a pattern ask for. -/
structure Mode where
  ignoresCase : Bool := false
  /-- Whether a point stands for the end of a line too. -/
  dotMatchesAll : Bool := false
  /-- Whether the marks of the ends hold at the ends of lines too. -/
  multiLine : Bool := false
  /-- Whether carriage returns end lines too. -/
  endsAtReturn : Bool := false
  /-- Whether the named classes hold ASCII characters only. -/
  staysAscii : Bool := false
deriving DecidableEq

namespace Mode

/-- Set one flag; the other flags change only how a pattern is written or how much it takes. -/
def set (mode : Mode) : Char × Bool → Mode
  | ('i', isOn) => { mode with ignoresCase := isOn }
  | ('s', isOn) => { mode with dotMatchesAll := isOn }
  | ('m', isOn) => { mode with multiLine := isOn }
  | ('R', isOn) => { mode with endsAtReturn := isOn }
  | ('u', isOn) => { mode with staysAscii := !isOn }
  | _ => mode

/-- Set some flags. -/
def setAll (mode : Mode) (flags : List (Char × Bool)) : Mode :=
  flags.foldl set mode

/-! ## Classes -/

/-- A class of characters, in any case if letter case does not matter. -/
def anyCase (mode : Mode) (inClass : Char → Bool) : Char → Bool :=
  if !mode.ignoresCase then inClass
  else if mode.staysAscii then
    fun character =>
      inClass character || inClass character.toLower || inClass character.toUpper
  else holdsAnyCase inClass

/--
Whether a class may occur.  A class of ASCII characters that holds others could hold a part of
a character only, and is refused.
-/
def admits (mode : Mode) (inClass : Char → Bool) : Bool :=
  !mode.staysAscii || !(List.range 128).any fun offset => inClass (Char.ofNat (offset + 128))

/-- The white space of ASCII. -/
def isAsciiSpace (character : Char) : Bool :=
  character = ' ' || ('\t' ≤ character && character ≤ '\r')

/-- Whether a character belongs to a word of ASCII characters. -/
def isAsciiWord (character : Char) : Bool :=
  character = '_' || character.isAlphanum

/-- Whether a character belongs to words. -/
def isWord (mode : Mode) (character : Char) : Bool :=
  if mode.staysAscii then isAsciiWord character else isWordCharacter character

/-- The class that a letter names. -/
def named (mode : Mode) : NamedClass → Char → Bool
  | .digit => if mode.staysAscii then Char.isDigit else Category.decimalDigit.holds
  | .space => if mode.staysAscii then isAsciiSpace else isWhiteSpace
  | .word => mode.isWord

/-- The named classes of ASCII characters that brackets can hold. -/
def asciiClasses : List (String × (Char → Bool)) :=
  [("alnum", Char.isAlphanum), ("alpha", Char.isAlpha),
    ("ascii", fun character => character.toNat < 128),
    ("blank", fun character => character = ' ' || character = '\t'),
    ("cntrl", fun character => character.toNat < 32 || character.toNat = 127),
    ("digit", Char.isDigit), ("graph", fun character => '!' ≤ character && character ≤ '~'),
    ("lower", Char.isLower), ("print", fun character => ' ' ≤ character && character ≤ '~'),
    ("punct", fun character => '!' ≤ character && character ≤ '~' && !character.isAlphanum),
    ("space", isAsciiSpace), ("upper", Char.isUpper), ("word", isAsciiWord),
    ("xdigit", isHexDigit)]

/-- The characters that a point stands for. -/
def point (mode : Mode) (character : Char) : Bool :=
  mode.dotMatchesAll || (character ≠ '\n' && !(mode.endsAtReturn && character = '\r'))

/-! ## Places -/

/-- The place before a text or a line; a carriage return and a line feed are not parted. -/
def atLineStart (mode : Mode) (before after : Option Char) : Bool :=
  before.isNone
    || (mode.multiLine
      && (before = some '\n'
        || (mode.endsAtReturn && before = some '\r' && after ≠ some '\n')))

/-- The place after a text or a line; a carriage return and a line feed are not parted. -/
def atLineEnd (mode : Mode) (before after : Option Char) : Bool :=
  after.isNone
    || (mode.multiLine
      && (if mode.endsAtReturn then
          after = some '\r' || (after = some '\n' && before ≠ some '\r')
        else after = some '\n'))

/-- Whether a place with these neighbours passes a test. -/
def passes (mode : Mode) (test : Place) (before after : Option Char) : Bool :=
  match test with
  | .lineStart => mode.atLineStart before after
  | .lineEnd => mode.atLineEnd before after
  | .textStart => before.isNone
  | .textEnd => after.isNone
  | .wordEdge => before.any mode.isWord != after.any mode.isWord
  | .noWordEdge => before.any mode.isWord == after.any mode.isWord
  | .wordStart => !before.any mode.isWord && after.any mode.isWord
  | .wordEnd => before.any mode.isWord && !after.any mode.isWord
  | .outsideBefore => !before.any mode.isWord
  | .outsideAfter => !after.any mode.isWord

end Mode

end SqlMapping.Text.Pattern
