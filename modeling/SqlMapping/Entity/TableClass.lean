import SqlMapping.Compilation
import SqlMapping.Entity.ClassField

/-!
# Table classes

A table class is a model whose fields carry options.  A class that has options of its own is
compiled: its declaration is checked, its statements are generated, and a member is made for
every lookup, every setter and every way to delete or insert rows.  A class inherits the
fields, the members and the compiled statements of the classes it extends; fields that it
declares again stay in their place.  It also inherits how its model treats data, which it can
change.

A member may replace a generated member of an extended class.  It may not take the name of a
field or of anything else.  A field may hide a member, and then has it as its default.
-/

namespace SqlMapping

/-- The statements of a table, with the backend that generated them. -/
structure CompiledTable where
  plan : TablePlan
  backend : Backend

/-- What a name of a class stands for. -/
inductive Member where
  | getter (getter : Getter)
  /-- A setter with the type that its argument is checked against. -/
  | setter (setter : Setter) (type : TypeRef)
  | deleteRow
  | delete
  | insert (model : Model)
  /-- A class that was defined inside the class, by its identity. -/
  | nested (identity : Nat)
  /-- Any other member that was not generated. -/
  | method

/-- Whether a member was generated. -/
def Member.isGenerated : Member → Bool
  | .nested _ | .method => false
  | _ => true

/-- What a class adds to the classes it extends. -/
structure ClassLayer where
  name : String
  /-- The dotted path of the class. -/
  path : String
  /-- The name of the module that the class is defined in. -/
  moduleName : String := ""
  /-- All fields of the class, those of extended classes first. -/
  fields : List ClassField := []
  members : List (String × Member) := []
  /-- The compiled statements, if the class has options of its own. -/
  compiled : Option CompiledTable := none
  /-- The options of the model, those of extended classes included. -/
  config : List (String × Value) := []
  /-- How the arguments of members are read, and the objects of classes in fields. -/
  style : ReadingStyle := {}

/-- A table class. -/
structure TableClass where
  own : ClassLayer
  /-- The layers of the extended classes, nearest first. -/
  extended : List ClassLayer := []

namespace TableClass

/-- The name of a class. -/
def name (table : TableClass) : String := table.own.name

/-- The layers of a class, its own first. -/
def layers (table : TableClass) : List ClassLayer :=
  table.own :: table.extended

/-- The fields of a class, those of extended classes first. -/
def fields (table : TableClass) : List ClassField := table.own.fields

/-- The names of the fields, in order. -/
def fieldNames (table : TableClass) : List String :=
  table.fields.map fun field => field.field.name

/-- The model that rows are read into. -/
def model (table : TableClass) : Model where
  name := table.name
  fields := table.fields.map ClassField.field
  config := ModelConfig.ofClass table.own.config table.own.style

/-- The compiled statements of a class, its own or inherited. -/
def compiled? (table : TableClass) : Option CompiledTable :=
  table.layers.findSome? ClassLayer.compiled

/-- The member of a name, its own or inherited. -/
def member? (table : TableClass) (name : String) : Option Member :=
  table.layers.findSome? fun layer => layer.members.lookup name

/-- The first of some layers that has a member, as a class of its own. -/
def ownerAmong? (name : String) : List ClassLayer → Option TableClass
  | [] => none
  | layer :: rest =>
    if (layer.members.lookup name).isSome then some ⟨layer, rest⟩ else ownerAmong? name rest

/-- The class that a member comes from: the class itself or one that it extends. -/
def owner (table : TableClass) (name : String) : TableClass :=
  (ownerAmong? name table.layers).getD table

/-- The dotted paths of a class and of the classes it extends. -/
def paths (table : TableClass) : List String :=
  table.layers.map ClassLayer.path

/-- The names of the class's own generated members, sorted. -/
def generatedNames (table : TableClass) : List String :=
  Registry.sortTexts
    ((table.own.members.filter fun member => member.2.isGenerated).map Prod.fst)

end TableClass

/-! ## Options of a class -/

/-- The options that a class has. -/
inductive ClassMarker where
  /-- The class has no options and is not compiled. -/
  | absent
  | options (attributes : List Attribute)
  /-- Something that is no options at all. -/
  | unusable (value : Value)

/-- The key under which a class has its options. -/
def ClassMarker.key : String := "__brickorm__"

/-- A class to be defined. -/
structure ClassDefinition where
  name : String
  path : String
  /-- The name of the module that the class is defined in. -/
  moduleName : String := ""
  marker : ClassMarker := .absent
  fields : List ClassField := []
  /-- The names of plain members. -/
  methods : List String := []
  /-- The classes that are defined inside the class, by their names in it and their identities. -/
  nested : List (String × Nat) := []
  /-- The options of the model that the class sets itself. -/
  config : List (String × Value) := []
  /-- How the arguments of members are read, and the objects of classes in fields. -/
  style : ReadingStyle := {}

namespace ClassDefinition

/-- The declaration of a class with some options and all of its fields. -/
def declaration (name : String) (attributes : List Attribute) (fields : List ClassField) :
    Declaration where
  name := name
  attributes := attributes
  fields := fields.map ClassField.declaration

/-- The members that the class is defined with. -/
def members (definition : ClassDefinition) : List (String × Member) :=
  definition.methods.map (fun method => (method, .method))
    ++ definition.nested.map fun entry => (entry.1, .nested entry.2)

/-- The fields of the class, after those that it inherits; some names belong to members. -/
def fieldsOver (isMember : String → Bool) (inherited : List ClassField)
    (definition : ClassDefinition) : List ClassField :=
  let isDefined (name : String) : Bool := definition.members.any fun member => member.1 = name
  ClassField.ofClass (fun name => isDefined name || isMember name) inherited
    (definition.fields.filter fun field => ClassField.isFieldName field.field.name)

/-- The members whose names are not the names of fields. -/
def membersBeside (fields : List ClassField) (definition : ClassDefinition) :
    List (String × Member) :=
  definition.members.filter fun member =>
    !fields.any fun field => field.field.name = member.1

/-- The options of the model, after those that it inherits. -/
def configOver (inherited : List (String × Value)) (definition : ClassDefinition) :
    List (String × Value) :=
  Entries.putAll inherited definition.config

/-- The definition of the class of a declaration in a module. -/
def ofDeclaration (moduleName : String) (style : ReadingStyle) (declaration : Declaration) :
    ClassDefinition where
  name := declaration.name
  path := moduleName ++ "." ++ declaration.name
  moduleName := moduleName
  marker := .options declaration.attributes
  fields := ClassField.ofDeclarations declaration.fields
  style := style

/-- The refusal of options that are none. -/
def unusableMarker (name : String) (value : Value) : BuildError :=
  .invalidAttribute ClassMarker.key value .marker name

end ClassDefinition

namespace TableClass

/-- The members of every record that a field of their name can hide. -/
def recordMembers : List String :=
  ["model_computed_fields", "model_config", "model_construct", "model_copy", "model_dump",
    "model_dump_json", "model_extra", "model_fields", "model_fields_set", "model_json_schema",
    "model_parametrized_name", "model_post_init", "model_rebuild", "model_validate",
    "model_validate_json", "model_validate_strings"]

/-- The members of every record that are out of use, which no field has as its default. -/
def retiredMembers : List String :=
  ["construct", "copy", "dict", "from_orm", "json", "parse_file", "parse_obj", "parse_raw",
    "schema", "schema_json", "update_forward_refs", "validate"]

/-- The members of every record that are no business of others. -/
def innerMembers : List String :=
  ["_abc_impl", "_calculate_keys", "_copy_and_set_values", "_get_value", "_iter",
    "_setattr_handler"]

/-- The members that every class has as a class. -/
def classMembers : List String := ["mro", "register"]

/-- The members of every record, or of its class, that a field of their name has as default. -/
def hiddenMembers : List String := recordMembers ++ classMembers

/-- The members that every record has besides its fields. -/
def commonMembers : List String :=
  retiredMembers ++ recordMembers ++ innerMembers

/-- The members that entities have and other records do not. -/
def tableMembers : List String :=
  ["all", "get", "patch", "reload", "stream_all", "stream_paginated", "update", "_dialect", "_id"]

/-- The members of every record whose names are between two pairs of underscores. -/
def specialMembers : List String :=
  ["abstractmethods", "annotations", "class", "class_getitem", "class_vars", "copy", "deepcopy",
    "delattr", "dict", "dir", "doc", "eq", "fields", "fields_set", "format", "ge",
    "get_pydantic_core_schema", "get_pydantic_json_schema", "getattr", "getattribute",
    "getstate", "gt", "hash", "init", "init_subclass", "iter", "le", "lt", "module", "ne", "new",
    "pretty", "private_attributes", "reduce", "reduce_ex", "replace", "repr", "repr_args",
    "repr_name", "repr_recursion", "repr_str", "rich_repr", "setattr", "setstate", "signature",
    "sizeof", "slots", "str", "subclasshook", "weakref"]

/-- The special members of every record that belong to its reading of data. -/
def readingMembers : List String :=
  ["complete", "computed_fields", "core_schema", "custom_init", "decorators", "extra", "fields",
    "fields_set", "generic_metadata", "init_subclass", "on_complete", "parent_namespace",
    "post_init", "private", "root_model", "serializer", "setattr_handlers", "validator"]

/-- A name between two pairs of underscores. -/
def specialName (name : String) : String := "__" ++ name ++ "__"

/-- The names that every entity has besides its fields. -/
def reservedNames : List String :=
  ClassMarker.key :: commonMembers ++ tableMembers
    ++ (specialMembers ++ readingMembers.map fun name => "pydantic_" ++ name).map specialName

/-- The part of a class that holds its statements. -/
def statementsPart : String := specialName "compiled"

/-- The part of a class that holds its schema. -/
def schemaPart : String := specialName "schema"

/-- The part of a class that holds its backend. -/
def backendPart : String := specialName "backend"

/-- The parts that compiled classes hold. -/
def parts : List String := [statementsPart, schemaPart, backendPart]

/-- The parts that a class has because it extends compiled classes. -/
def inheritedParts (table : TableClass) : List String :=
  if table.extended.any fun layer => layer.compiled.isSome then parts else []

/-- The insert model of a table: the fields that callers supply. -/
def insertModel (own : ClassLayer) (schema : TableSchema) (spec : InsertSpec) : Model :=
  { name := spec.modelName
    fields := schema.insertFields.filterMap fun field =>
      (own.fields.find? fun candidate => candidate.field.name = field.name).map ClassField.field
    config := ModelConfig.ofClass spec.config own.style }

/-- The type of a field. -/
def typeOf (fields : List ClassField) (name : String) : TypeRef :=
  ((fields.find? fun field => field.field.name = name).map fun field => field.field.type).getD
    .anything

/-- The members that are generated for a table; of members with one name, the last one counts. -/
def generatedMembers (own : ClassLayer) (plan : TablePlan) : List (String × Member) :=
  Entries.putAll []
    (plan.getters.map (fun getter => (getter.functionName, .getter getter))
      ++ plan.setters.map (fun setter =>
        (setter.functionName, .setter setter (typeOf own.fields setter.fieldName)))
      ++ (if plan.delete.isSome then [("delete_row", .deleteRow), ("delete", .delete)] else [])
      ++ (plan.schema.insertable.map fun spec =>
        ("Insert", Member.insert (insertModel own plan.schema spec))).toList)

/-- Whether a generated member may have a name: nothing but generated members has it so far. -/
def isFree (table : TableClass) (name : String) : Bool :=
  !table.fieldNames.contains name
    && match table.member? name with
      | some member => member.isGenerated
      | none => !(reservedNames ++ table.inheritedParts).contains name

/-- Check the names of generated members in order. -/
def checkFree (table : TableClass) (names : List String) : Except BuildError Unit :=
  match names.find? fun name => !table.isFree name with
  | some name => .error (.nameCollision name table.name)
  | none => .ok ()

/-- Whether a class, or every entity, has a member that a field of its name hides. -/
def canHide (base : Option TableClass) (name : String) : Bool :=
  (base.bind fun extended => extended.member? name).isSome
    || (hiddenMembers ++ tableMembers).contains name

/-- The class of a definition before it is compiled. -/
def ofDefinition (base : Option TableClass) (definition : ClassDefinition) : TableClass :=
  let fields := definition.fieldsOver (canHide base) ((base.map fields).getD [])
  { own :=
      { name := definition.name
        path := definition.path
        moduleName := definition.moduleName
        fields := fields
        members := definition.membersBeside fields
        config := definition.configOver ((base.map fun table => table.own.config).getD [])
        style := definition.style }
    extended := (base.map layers).getD [] }

/-- Whether the fields of classes over a class can be of any other class. -/
def acceptsForeign (base : Option TableClass) : Bool :=
  base.any fun table => table.model.config.acceptsForeign

/--
The fault of a reader that the members of a class need: for the arguments of lookups, for those of
setters, and for the fields of the insert model.
-/
def readerFault? (own : ClassLayer) (plan : TablePlan) : Option FieldFault :=
  let argument (getter : Getter) : Option TypeRef :=
    match getter.argumentType with
    | .type reference => reference.unread?
    | _ => none
  let inserted (spec : InsertSpec) : Option TypeRef :=
    let model := insertModel own plan.schema spec
    if model.config.acceptsForeign then none
    else model.fields.findSome? fun field => field.type.unread?
  ((plan.getters.findSome? argument).or
    ((plan.setters.findSome? fun setter => (typeOf own.fields setter.fieldName).unread?).or
      (plan.schema.insertable.bind inserted))).map .unreadType

/-- Generate the statements and members of a class that has options. -/
def compile (workspace : Workspace) (attributes : List Attribute) (table : TableClass) :
    Report TableClass := do
  let plan ← compileTable workspace .configured
    (ClassDefinition.declaration table.name attributes table.fields)
  let backend ← Report.ofExcept (workspace.resolve (.ofKey? plan.schema.backend))
  let members := generatedMembers table.own plan
  Report.ofExcept (table.checkFree (members.map Prod.fst))
  return { table with
    own := { table.own with
      members := Entries.putAll table.own.members members
      compiled := some ⟨plan, backend⟩ } }

/-- Define a class. -/
def define (workspace : Workspace) (base : Option TableClass) (definition : ClassDefinition) :
    Report TableClass :=
  let table := ofDefinition base definition
  match definition.marker with
  | .absent => .pure table
  | .unusable value => .fail (ClassDefinition.unusableMarker table.name value)
  | .options attributes => table.compile workspace attributes

/-- Make a class; it is given up where a reader that its members need cannot be made. -/
def create (workspace : Workspace) (base : Option TableClass) (definition : ClassDefinition) :
    Report (Except FieldFault TableClass) :=
  let table := ofDefinition base definition
  let planned : Report (Option FieldFault) :=
    match definition.marker with
    | .options attributes =>
      readerFault? table.own <$> compileTable workspace .configured
        (ClassDefinition.declaration table.name attributes table.fields)
    | .absent | .unusable _ => .pure none
  match planned.outcome with
  | .ok (some fault) => (fun _ => .error fault) <$> planned
  | .ok none | .error _ => .ok <$> define workspace base definition

/-- Define the class of a declaration in a module. -/
def ofDeclaration
    (workspace : Workspace)
    (base : Option TableClass)
    (moduleName : String)
    (style : ReadingStyle)
    (declaration : Declaration) :
    Report TableClass :=
  define workspace base (.ofDeclaration moduleName style declaration)

/--
Define the class of a declaration in a module, if a class over the one at a path can be made of it.
-/
def declare
    (workspace : Workspace)
    (base : Option TableClass)
    (basePath moduleName : String)
    (style : ReadingStyle)
    (declaration : Declaration) :
    Except FieldFault (Report (Except FieldFault TableClass)) := do
  ClassField.checkDeclarations (acceptsForeign base) declaration.name basePath declaration.fields
  return create workspace base (.ofDeclaration moduleName style declaration)

end TableClass

end SqlMapping
