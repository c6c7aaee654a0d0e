import SqlMapping.Validation.Type

/-!
# Models

A model is a named record type: its fields in order, each with a type and possibly a default,
limits, and another key under which its value is found.  Reading data into a model checks every
field and keeps the order of the fields; data under other keys is ignored or refused.  A default
is a value, or what calling a value gives when it is needed.

The main statement says that a record that has been read has exactly the fields of its model.
-/

namespace SqlMapping

/-- What a field has where data gives it no value. -/
inductive Fallback where
  /-- Nothing: data has to give a value. -/
  | required
  | value (value : Value)
  /-- What calling a value gives; a value that counts as false is not called. -/
  | call (callee : Value)
  /-- The member of its class that the field hides. -/
  | member

/-- A field of a model. -/
structure ModelField where
  name : String
  type : TypeRef := .anything
  fallback : Fallback := .required
  /-- The key under which the value is found, if it is not the name. -/
  aliasName : Option String := none
  /-- Another name by which a statement may select the field. -/
  selectName : Option String := none
  limits : List Limit := []
  /-- Whether values of another kind are refused, if the field itself says so. -/
  strict : Option Bool := none
  /-- Whether the default is read as data is, if the field itself says so. -/
  readsDefault : Option Bool := none
  /-- Whether the field cannot be assigned. -/
  frozen : Bool := false

/-- Whether a field has been declared without a default. -/
def ModelField.isRequired (field : ModelField) : Bool :=
  match field.fallback with
  | .required => true
  | _ => false

/-- How a model treats its data. -/
structure ModelConfig where
  /-- Whether data under unknown keys is refused. -/
  forbidExtra : Bool := false
  /-- Whether values can be assigned to names that are no fields. -/
  allowExtra : Bool := false
  /-- Whether the fields of a record cannot be assigned. -/
  frozen : Bool := false
  /-- Whether a value is read when it is assigned. -/
  readsAssigned : Bool := false
  /-- Whether defaults are read as data is. -/
  readsDefaults : Bool := false
  /-- Whether a field with another key is found under that key. -/
  acceptsAliases : Bool := true
  /-- Whether a field with another key is found under its name. -/
  acceptsNames : Bool := false
  /-- Whether issues are placed under the key that was looked up, and not under the name. -/
  placesByKey : Bool := true
  /-- Whether a field can be of a class whose values are told by that class alone. -/
  acceptsForeign : Bool := false
  style : ReadingStyle := {}

namespace ModelConfig

/-- Whether an option is set. -/
def isSet (entries : List (String × Value)) (key : String) : Bool :=
  (entries.lookup key).any Value.truthy

/-- Whether an option is set, or what holds without it. -/
def isSetOr (fallback : Bool) (entries : List (String × Value)) (key : String) : Bool :=
  ((entries.lookup key).map Value.truthy).getD fallback

/-- The letter case that options ask for. -/
def letterCase? (entries : List (String × Value)) : Option LetterCase :=
  if isSet entries "str_to_lower" then some .lower
  else if isSet entries "str_to_upper" then some .upper
  else none

/-- How options ask values to be read. -/
def styleOf (entries : List (String × Value)) : ReadingStyle where
  strict := isSet entries "strict"
  stripText := isSet entries "str_strip_whitespace"
  letterCase := letterCase? entries
  longestText := Limit.count? entries "str_max_length"
  shortestText := Limit.count? entries "str_min_length"
  textOfNumber := isSet entries "coerce_numbers_to_str"
  infinite :=
    ((entries.lookup "allow_inf_nan").filter fun value => !value.isNull).map Value.truthy

/-- The configuration that options give; options of other names do not count. -/
def ofEntries (entries : List (String × Value)) : ModelConfig where
  forbidExtra := (entries.lookup "extra").any fun value => value.asText? = some "forbid"
  allowExtra := (entries.lookup "extra").any fun value => value.asText? = some "allow"
  frozen := isSet entries "frozen"
  readsAssigned := isSet entries "validate_assignment"
  readsDefaults := isSet entries "validate_default"
  acceptsAliases := isSetOr true entries "validate_by_alias"
  acceptsNames := isSet entries "populate_by_name" || isSet entries "validate_by_name"
  placesByKey := isSetOr true entries "loc_by_alias"
  acceptsForeign := isSet entries "arbitrary_types_allowed"
  style := styleOf entries

/-- The configuration that options give a class, with the objects of classes read in a style. -/
def ofClass (entries : List (String × Value)) (style : ReadingStyle) : ModelConfig :=
  let config := ofEntries entries
  { config with style := { config.style with entity := style.entity } }

end ModelConfig

/-- A named record type. -/
structure Model where
  name : String
  fields : List ModelField
  config : ModelConfig := {}

namespace Model

/-- The names of the fields, in order. -/
def fieldNames (model : Model) : List String :=
  model.fields.map ModelField.name

/-- The field of a name. -/
def field? (model : Model) (name : String) : Option ModelField :=
  model.fields.find? fun field => field.name = name

/-- How the values of a field are read; objects of classes have a strictness of their own. -/
def styleOf (model : Model) (field : ModelField) : ReadingStyle :=
  { model.config.style with
    strict := field.strict.getD (model.config.style.strict && !field.type.isClass) }

/-- Read a value as the value of a field. -/
def readValue (model : Model) (field : ModelField) (value : Value) : Checked Value :=
  field.type.read (model.styleOf field) field.limits value

/-- The keys under which the value of a field is looked up, in order. -/
def keysOf (model : Model) (field : ModelField) : List String :=
  match field.aliasName with
  | none => [field.name]
  | some key =>
    (if model.config.acceptsAliases then [key] else [])
      ++ (if model.config.acceptsNames then [field.name] else [])

/-- The value of a field in the entries of a mapping, with its key. -/
def find? (model : Model) (entries : List (String × Value)) (field : ModelField) :
    Option (String × Value) :=
  (model.keysOf field).findSome? fun key => (entries.lookup key).map fun value => (key, value)

/-- Where the issues of a field that has a key are placed. -/
def placeOf (model : Model) (field : ModelField) (key : String) : String :=
  if model.config.placesByKey then key else field.name

/-- A default of a field, which is read as data is where the model or the field says so. -/
def readDefault (model : Model) (field : ModelField) (value : Value) : Checked Value :=
  if field.readsDefault.getD model.config.readsDefaults then
    Checked.within field.name (model.readValue field value)
  else .ok value

/-- The issue of a field that data gives no value. -/
def missing (model : Model) (field : ModelField) : Checked Value :=
  Checked.within (model.placeOf field ((model.keysOf field).headD field.name))
    (Checked.issue .missing)

/-- What a field has where data gives it no value. -/
def readFallback (model : Model) (field : ModelField) : Checked Value :=
  match field.fallback with
  | .required => model.missing field
  | .value value => model.readDefault field value
  | .member => model.readDefault field (.member field.name)
  | .call callee =>
    if callee.truthy then (callee.called (model.styleOf field)).bind (model.readDefault field)
    else model.missing field

/-- Read the content of one field. -/
def readContent (model : Model) (entries : List (String × Value)) (field : ModelField) :
    Checked Value :=
  match model.find? entries field with
  | some (key, value) =>
    Checked.within (model.placeOf field key) (model.readValue field value)
  | none => model.readFallback field

/-- Read one field. -/
def readField (model : Model) (entries : List (String × Value)) (field : ModelField) :
    Checked (String × Value) :=
  (model.readContent entries field).map fun value => (field.name, value)

/-- Refuse what no field was read from, if the model does so. -/
def checkExtra (model : Model) (entries : List (String × Value)) : Checked Unit :=
  if model.config.forbidExtra then
    Checked.knownOnly ((model.fields.filterMap (model.find? entries)).map Prod.fst) entries
  else .ok ()

/-- Read the fields of a record from the entries of a mapping. -/
def readEntries (model : Model) (entries : List (String × Value)) :
    Checked (List (String × Value)) :=
  (Checked.both
    (Checked.all (model.fields.map (model.readField entries)))
    (model.checkExtra entries)).map Prod.fst

/-- Read the fields of a record from data. -/
def read (model : Model) (data : Value) : Checked (List (String × Value)) :=
  (Checked.recordEntries data).bind model.readEntries

/-- Read data as a record of the model; a record of its own is kept. -/
def readRecord (model : Model) (data : Value) : Checked Value :=
  match data with
  | .record name _ =>
    if name = model.name then .ok data else Checked.issue .modelType
  | _ => (model.read data).map (Value.record model.name)

/-- What is read for a field goes by the name of the field. -/
theorem fst_of_readField
    {model : Model}
    {entries : List (String × Value)}
    {field : ModelField}
    {entry : String × Value}
    (accepted : model.readField entries field = .ok entry) :
    entry.1 = field.name := by
  unfold readField at accepted
  cases content : model.readContent entries field with
  | error issues => simp [content, Except.map] at accepted
  | ok value =>
      simp only [content, Except.map, Except.ok.injEq] at accepted
      rw [← accepted]

/-- A record that has been read has the fields of its model, in order. -/
theorem map_fst_of_readEntries
    {model : Model}
    {entries fields : List (String × Value)}
    (accepted : model.readEntries entries = .ok fields) :
    fields.map Prod.fst = model.fieldNames := by
  have allRead :
      ∀ (expected : List ModelField) (values : List (String × Value)),
        Checked.all (expected.map (model.readField entries)) = .ok values →
          values.map Prod.fst = expected.map ModelField.name := by
    intro expected
    induction expected with
    | nil =>
        intro values equality
        cases equality
        rfl
    | cons field rest inductionHypothesis =>
        intro values equality
        simp only [List.map_cons, Checked.all] at equality
        cases first : model.readField entries field with
        | error issues =>
            cases others : Checked.all (rest.map (model.readField entries)) <;>
              simp [first, others, Checked.both, Except.map] at equality
        | ok value =>
            cases others : Checked.all (rest.map (model.readField entries)) with
            | error issues => simp [first, others, Checked.both, Except.map] at equality
            | ok remaining =>
                simp only [first, others, Checked.both, Except.map, Except.ok.injEq] at equality
                subst equality
                simp [fst_of_readField first, inductionHypothesis remaining others]
  unfold readEntries at accepted
  cases read : Checked.all (model.fields.map (model.readField entries)) with
  | error issues =>
      cases extra : model.checkExtra entries <;>
        simp [read, extra, Checked.both, Except.map] at accepted
  | ok values =>
      cases extra : model.checkExtra entries with
      | error issues => simp [read, extra, Checked.both, Except.map] at accepted
      | ok _ =>
          simp only [read, extra, Checked.both, Except.map, Except.ok.injEq] at accepted
          exact accepted ▸ allRead model.fields values read

end Model

/-- What a row is decoded into. -/
inductive Output where
  /-- A mapping from column names to values. -/
  | dict
  /-- The values in order. -/
  | tuple
  /-- A mapping whose values are read as values of a type. -/
  | mapping (type : TypeRef)
  /-- A record of a model. -/
  | record (model : Model)

/-- The name by which an output is shown. -/
def Output.displayName : Output → String
  | .dict => "dict"
  | .tuple => "tuple"
  | .mapping _ => "dict"
  | .record model => model.name

/-- Decode the named values of a row. -/
def Output.decode (output : Output) (row : List (String × Value)) : Checked Value :=
  match output with
  | .dict => .ok (.object row)
  | .tuple => .ok (.tuple (row.map Prod.snd))
  | .mapping type => readMapping (type.read {} []) (.object row)
  | .record model => (model.readEntries row).map (Value.record model.name)

end SqlMapping
