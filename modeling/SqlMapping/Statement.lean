import SqlMapping.Backend

/-!
# Statements

A statement is generated from a template: fixed words, identifiers that are quoted where the
backend reserves them, labels that are always quoted, placeholders, and tests of membership in a
set, each with a placeholder of its own.  Rendering a template for a backend numbers its
placeholders from the first on.

A statement names the parameter of each placeholder.  A name that begins with a dollar sign is
an argument of the call; any other name is a field of the row that is written.
-/

namespace SqlMapping

/-- A part of a statement template. -/
inductive Piece where
  /-- Text of the template itself. -/
  | word (text : String)
  /-- An identifier, quoted where it is reserved. -/
  | identifier (name : String)
  /-- A label, always quoted. -/
  | label (name : String)
  /-- The next placeholder. -/
  | placeholder
  /-- The test that a column is in the set at the next placeholder. -/
  | membership (column : String)
deriving DecidableEq

/-- A sequence of parts. -/
abbrev Template := List Piece

namespace Piece

/-- Whether a part takes a placeholder. -/
def takesPlaceholder : Piece → Bool
  | .placeholder | .membership _ => true
  | .word _ | .identifier _ | .label _ => false

/-- The text of a part that `used` placeholders precede. -/
def text (backend : Backend) (used : Nat) : Piece → String
  | .word content => content
  | .identifier name => backend.quote name
  | .label name => backend.enclose name
  | .placeholder => backend.placeholder used
  | .membership column => backend.membership (backend.quote column) (backend.placeholder used)

end Piece

namespace Template

/-- The texts of the parts of a template that `used` placeholders precede. -/
def texts (backend : Backend) : (used : Nat) → Template → List String
  | _, [] => []
  | used, piece :: rest =>
    piece.text backend used
      :: texts backend (if piece.takesPlaceholder then used + 1 else used) rest

/-- The text of a template. -/
def render (backend : Backend) (template : Template) : String :=
  String.join (template.texts backend 0)

/-- The number of placeholders of a template. -/
def placeholderCount (template : Template) : Nat :=
  template.countP Piece.takesPlaceholder

/-- Templates separated by a comma and a blank. -/
def separated : List Template → Template
  | [] => []
  | [last] => last
  | first :: second :: rest => first ++ .word ", " :: separated (second :: rest)

@[simp]
theorem texts_nil (backend : Backend) (used : Nat) : texts backend used [] = [] := rfl

/-- A template is rendered part after part; the second part counts the first one's placeholders. -/
theorem texts_append (backend : Backend) (used : Nat) (left right : Template) :
    texts backend used (left ++ right) =
      texts backend used left ++ texts backend (used + left.placeholderCount) right := by
  induction left generalizing used with
  | nil => simp [placeholderCount]
  | cons piece rest inductionHypothesis =>
      rw [List.cons_append, texts, texts, inductionHypothesis]
      cases takesPlaceholder : piece.takesPlaceholder <;>
        simp [placeholderCount, takesPlaceholder, Nat.add_assoc, Nat.add_comm 1]

end Template

/-- A generated statement. -/
structure Statement where
  sql : String
  /-- The names bound to the placeholders, in order. -/
  params : List String
  /-- The name of the backend that the statement was generated for. -/
  dialect : String
deriving DecidableEq, Inhabited

/-- Why a statement is not bound. -/
inductive BindError where
  | missingArgument (name : String)
  | missingField (name : String)
  /-- An argument has the name of something that binding itself takes. -/
  | repeatedArgument (member name : String)
deriving DecidableEq

namespace Statement

/-- The statement that a template and its parameters make for a backend. -/
def ofTemplate (backend : Backend) (template : Template) (params : List String) : Statement :=
  ⟨template.render backend, params, backend.name⟩

/-- The name of the call argument that a parameter stands for, if it stands for one. -/
def argumentName? (parameter : String) : Option String :=
  match parameter.toList with
  | '$' :: rest => some (String.ofList rest)
  | _ => none

/-- The value of one parameter. -/
def bindParameter
    (fieldValue : String → Option Value)
    (arguments : List (String × Value))
    (parameter : String) :
    Except BindError Value :=
  match argumentName? parameter with
  | some name =>
    match arguments.lookup name with
    | some value => .ok value
    | none => .error (.missingArgument name)
  | none =>
    match fieldValue parameter with
    | some value => .ok value
    | none => .error (.missingField parameter)

/-- The values of all parameters, in order, or the first that is missing. -/
def bind
    (statement : Statement)
    (fieldValue : String → Option Value)
    (arguments : List (String × Value)) :
    Except BindError (List Value) :=
  statement.params.mapM (bindParameter fieldValue arguments)

/-- The names that arguments cannot have, because binding takes them itself. -/
def takenNames : List String := ["self", "source"]

/-- The field under whose name a source has all its fields together. -/
def allFields : String := "__dict__"

/-- The value of a field of a source, or all of its fields together. -/
def sourceValue (source : Option (List (String × Value))) (name : String) : Option Value :=
  match source.bind fun fields => fields.lookup name with
  | some value => some value
  | none => if name = allFields then source.map Value.object else none

/-- Bind the parameters of a statement to a source, if there is one, and to arguments. -/
def bindSource
    (statement : Statement)
    (source : Option (List (String × Value)))
    (arguments : List (String × Value)) :
    Except BindError (List Value) :=
  match arguments.find? fun argument => takenNames.contains argument.1 with
  | some argument => .error (.repeatedArgument "CompiledStatement.bind" argument.1)
  | none => statement.bind (sourceValue source) arguments

end Statement

end SqlMapping
