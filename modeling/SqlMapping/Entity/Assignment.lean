import SqlMapping.Entity.TableClass
import SqlMapping.Failure

/-!
# Assigning fields

A value is assigned to a name of a record.  Parts that the class itself holds cannot be
assigned, and names with a leading underscore are not looked at.  A frozen model or field
refuses every value, and a model can ask for values to be read when they are assigned.
-/

namespace SqlMapping

namespace Model

/-- The members of every record that are computed and cannot be assigned. -/
def computedMembers : List String := ["model_extra", "model_fields_set"]

/-- Refuse a name that is frozen, with its model or alone. -/
def checkAssignable (model : Model) (name : String) : Except Failure Unit :=
  if model.config.frozen then .error (.invalid [{ location := [name], kind := .frozenInstance }])
  else if (model.field? name).any ModelField.frozen then
    .error (.invalid [{ location := [name], kind := .frozenField }])
  else if computedMembers.contains name then .error (.readOnlyMember model.name name)
  else .ok ()

/-- Put a value into the field of a name; other names can be allowed and hold nothing. -/
def put (model : Model) (fields : List (String × Value)) (name : String) (value : Value) :
    Except Failure (List (String × Value)) :=
  if model.fieldNames.contains name then .ok (Entries.put fields name value)
  else if model.config.allowExtra then .ok fields
  else .error (.unknownField model.name name)

/-- Read a value that is assigned to a name. -/
def readAssigned (model : Model) (name : String) (value : Value) : Checked Value :=
  Checked.within name <|
    match model.field? name with
    | some field => model.readValue field value
    | none => if model.config.allowExtra then .ok value else Checked.issue .unknownAttribute

/-- What a name of a record has after a value was assigned to it. -/
def stored (model : Model) (name : String) (value : Value) : Except Failure Value :=
  if model.config.readsAssigned then (model.readAssigned name value).mapError .ofInvalid
  else .ok value

/-- Assign a value to a name of a record; `shared` are the parts that its class holds. -/
def assign
    (model : Model)
    (shared : List String)
    (fields : List (String × Value))
    (name : String)
    (value : Value) :
    Except Failure (List (String × Value)) :=
  if shared.contains name then .error (.sharedMember model.name name)
  else if !ClassField.isFieldName name then .ok fields
  else do
    model.checkAssignable name
    let kept ← model.stored name value
    model.put fields name kept

end Model

/-- What assigning several fields did before it ended, and how it ended. -/
structure Assigned (α : Type) where
  object : α
  /-- The names that were assigned, in order. -/
  names : List String
  result : Except Failure Unit

/-- Assign to several names of an object, each its value; the first failure ends it. -/
def Assigned.ofNames
    {α : Type}
    (assign : α → String → Value → Except Failure α)
    (value : String → Except Failure Value)
    (object : α) :
    List String → Assigned α
  | [] => ⟨object, [], .ok ()⟩
  | name :: rest =>
    match value name >>= assign object name with
    | .error failure => ⟨object, [], .error failure⟩
    | .ok changed =>
      let assigned := ofNames assign value changed rest
      { assigned with names := name :: assigned.names }

/-- The value of a field of a record. -/
def fieldValue (fields : List (String × Value)) (name : String) : Except Failure Value :=
  match fields.lookup name with
  | some value => .ok value
  | none => .error (.missingMember name)

end SqlMapping
