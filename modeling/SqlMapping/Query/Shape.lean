import SqlMapping.Error
import SqlMapping.Query.ItemName
import SqlMapping.Validation.Model

/-!
# Row shapes

The shape of a statement is the list of output names of its select list.  All branches of a
query have to have one shape.  If the rows are decoded into a model, every name has to be that
of a field, and every required field has to be selected.  A star makes the shape unknown, so
that only the comparison of the branches applies.
-/

namespace SqlMapping.Query

/-- Why a query is refused when its shape is checked. -/
inductive ShapeError where
  | mismatch (cause : ShapeMismatch)
  | unnamed (cause : NameFault)

/-- The shapes of statements, in order. -/
def shapesOf (dialect : Option String) (sqls : List String) :
    Except NameFault (List (Option (List String))) :=
  sqls.mapM (outputNames dialect)

/-- The first shape that differs from the first of all, with its position. -/
def firstOther? (expected : Option (List String)) :
    (position : Nat) → List (Option (List String)) → Option ShapeMismatch
  | _, [] => none
  | position, shape :: rest =>
    if shape = expected then firstOther? expected (position + 1) rest
    else some (.branch position expected shape)

/-- The field that a selected name stands for: its own name or its other one. -/
def fieldOf? (model : Model) (name : String) : Option String :=
  let accepted := model.fields.flatMap fun field =>
    (field.name, field.name)
      :: ((field.selectName.filter fun other => !other.isEmpty).map
        fun other => (other, field.name)).toList
  (accepted.reverse.lookup name)

/-- Compare the names of a shape with the fields of a model. -/
def checkModel (model : Model) (names : List String) : Except ShapeMismatch Unit :=
  let unknown := names.filter fun name => (fieldOf? model name).isNone
  if !unknown.isEmpty then .error (.unknownFields unknown model.name)
  else
    let selected := names.filterMap (fieldOf? model)
    let missing := (model.fields.filter fun field =>
      field.isRequired && !selected.contains field.name).map ModelField.name
    if !missing.isEmpty then .error (.missingFields missing model.name)
    else .ok ()

/-- Compare a common shape with what its rows are decoded into. -/
def checkOutput (output : Output) (shape : Option (List String)) : Except ShapeMismatch Unit :=
  match output, shape with
  | .record model, some names =>
    if names.contains (String.ofList star) then .ok () else checkModel model names
  | _, _ => .ok ()

/-- Check that one or more statements have one shape that suits the output; it is the result. -/
def checkShapes (sqls : List String) (output : Output) (dialect : Option String) :
    Except ShapeError (Option (List String)) :=
  match shapesOf dialect sqls with
  | .error fault => .error (.unnamed fault)
  | .ok [] => .error (.unnamed .noStatement)
  | .ok (first :: rest) =>
    match firstOther? first 1 rest with
    | some cause => .error (.mismatch cause)
    | none =>
      match checkOutput output first with
      | .error cause => .error (.mismatch cause)
      | .ok () => .ok first

end SqlMapping.Query
