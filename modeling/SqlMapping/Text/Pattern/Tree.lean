import SqlMapping.Text.Pattern.Fault

/-!
# Patterns as they are written

A written pattern is a tree of the parts of its text.  What the parts mean depends on the flags
that hold where they stand.
-/

namespace SqlMapping.Text.Pattern

/-- The classes of characters that a letter names. -/
inductive NamedClass where
  | digit
  | space
  | word
deriving DecidableEq

/-- The tests of a place. -/
inductive Place where
  | lineStart
  | lineEnd
  | textStart
  | textEnd
  /-- A word begins or ends here. -/
  | wordEdge
  | noWordEdge
  | wordStart
  | wordEnd
  /-- No word ends after the place before this one. -/
  | outsideBefore
  | outsideAfter
deriving DecidableEq

/-- A part without inner parts. -/
inductive Atom where
  | literal (character : Char)
  | named (kind : NamedClass) (negated : Bool)
  /-- The characters that have a property. -/
  | property (name : List Char) (negated : Bool)
  | place (test : Place)
deriving DecidableEq

/-- The operators between the members of a class. -/
inductive Operator where
  /-- What both sides hold. -/
  | both
  /-- What only the left side holds. -/
  | without
  /-- What just one side holds. -/
  | either
deriving DecidableEq

/-- A class in brackets. -/
inductive ClassTree where
  | nothing
  | atom (span : Span) (atom : Atom)
  | range (span : Span) (low high : Char)
  /-- A named class of ASCII characters. -/
  | ascii (name : String) (negated : Bool)
  | nested (span : Span) (negated : Bool) (inner : ClassTree)
  | union (first second : ClassTree)
  | operation (operator : Operator) (left right : ClassTree)

/-- A written pattern. -/
inductive Tree where
  | empty
  | atom (span : Span) (atom : Atom)
  /-- Any character. -/
  | point (span : Span)
  | bracket (inner : ClassTree)
  | sequence (first second : Tree)
  | choice (first second : Tree)
  /-- A part that occurs at least so often, and at most so often if there is a bound. -/
  | repeated (least : Nat) (most : Option Nat) (inner : Tree)
  /-- A part in parentheses, with flags that hold in it. -/
  | group (flags : List (Char × Bool)) (inner : Tree)
  /-- Flags that hold to the end of the group around them. -/
  | change (flags : List (Char × Bool))

end SqlMapping.Text.Pattern
