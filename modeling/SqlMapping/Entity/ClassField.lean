import SqlMapping.Declaration
import SqlMapping.Entries
import SqlMapping.Failure
import SqlMapping.Validation.Model

/-!
# Fields of classes

A declared field has a type, options, and properties that say how its values are read: a
default, limits, another key, and whether reading is strict.  Types are declared by their names.
A class field keeps all of that.  Declared fields are accepted if their properties, names and
types have no fault.
-/

namespace SqlMapping

/-! ## Types of declared fields -/

namespace TypeRef

/-- The types that have names in declarations. -/
def names : List (String × TypeRef) :=
  [("int", .integer), ("integer", .integer), ("str", .text), ("text", .text), ("float", .float),
    ("bool", .boolean), ("bytes", .bytes), ("decimal", .decimal), ("datetime", .datetime),
    ("date", .date), ("time", .time), ("uuid", .uuid)]

/-- The end of the name of an optional type. -/
def optionalMark : List Char := "| none".toList

/-- The type of a name in lower case; each mark at its end makes the type optional. -/
def ofName : (fuel : Nat) → List Char → TypeRef
  | 0, _ => .anything
  | fuel + 1, characters =>
    let name := Text.lower (String.ofList (Text.trimBlanks characters))
    if optionalMark.isSuffixOf name.toList then
      .optional (ofName fuel (name.toList.take (name.toList.length - optionalMark.length)))
    else (names.lookup name).getD .anything

/-- The type that a declared field has: texts are names of types, and unknown names allow all. -/
def ofDeclared : Value → TypeRef
  | .text name => ofName (name.length + 1) name.toList
  | .type reference => reference
  | _ => .anything

end TypeRef

/-! ## Fields -/

/-- Whether two options have one key and equal values. -/
def Attribute.same (left right : Attribute) : Bool :=
  left.key == right.key && left.value.same right.value

/-- A field of a class with its options. -/
structure ClassField where
  field : ModelField
  attributes : List Attribute := []
  /-- Whether the declaration gives the field a default or other properties. -/
  isAssigned : Bool := false

namespace ClassField

/-- Whether a name makes a field; names with a leading underscore do not. -/
def isFieldName (name : String) : Bool :=
  name.toList.head? ≠ some '_'

/-- A property that a field has. -/
def property? (properties : List (String × Value)) (key : String) : Option Value :=
  (properties.lookup key).filter fun value => !value.isNull

/-- A property that is set or not, unless it is absent. -/
def switch? (properties : List (String × Value)) (key : String) : Option Bool :=
  (property? properties key).map Value.truthy

/-- What a field has where data gives it no value. -/
def fallbackOf (properties : List (String × Value)) : Fallback :=
  match properties.lookup "default", property? properties "default_factory" with
  | some value, _ => .value value
  | none, some callee => .call callee
  | none, none => .required

/-- A property that is a text. -/
def textProperty? (properties : List (String × Value)) (key : String) : Option String :=
  (properties.lookup key).bind Value.asText?

/-- Whether a field cannot be assigned, as its properties or their older names say. -/
def isFrozen (properties : List (String × Value)) : Bool :=
  (switch? properties "frozen").getD false
    || (properties.lookup "allow_mutation").any (·.same (.bool false))

/-- The class field of a declared field. -/
def ofDeclaration (declaration : FieldDeclaration) : ClassField where
  field :=
    { name := declaration.name
      type := .ofDeclared declaration.type
      fallback := fallbackOf declaration.extra
      aliasName := (textProperty? declaration.extra "validation_alias").or
        (textProperty? declaration.extra "alias")
      selectName := textProperty? declaration.extra "alias"
      limits := Limit.ofEntries declaration.extra
      strict := switch? declaration.extra "strict"
      readsDefault := switch? declaration.extra "validate_default"
      frozen := isFrozen declaration.extra }
  attributes := declaration.attributes
  isAssigned := !declaration.extra.isEmpty

/-- The declaration of a class field. -/
def declaration (field : ClassField) : FieldDeclaration where
  name := field.field.name
  type := .type field.field.type
  attributes := field.attributes

/-- Put fields after those that are there; a field declared again stays in its place. -/
def merge (inherited added : List ClassField) : List ClassField :=
  (Entries.putAll (inherited.map fun field => (field.field.name, field))
    (added.map fun field => (field.field.name, field))).map Prod.snd

/-- The members of every record that are mappings of what its class extends. -/
def mappingMembers : List String := ["model_fields", "model_computed_fields"]

/-- A field that has the member it hides as its default, and no other properties. -/
def hidingMember (field : ClassField) : ClassField where
  field :=
    { name := field.field.name
      type := field.field.type
      fallback :=
        if mappingMembers.contains field.field.name then .value (.object []) else .member }
  attributes := field.attributes

/--
The fields of a class: those that it inherits and those that it declares.  Of several declarations
with one name the last one that gives the field a default or other properties counts for them.
Without any, a field that hides a member has it as its default.
-/
def ofClass (hides : String → Bool) (inherited declared : List ClassField) : List ClassField :=
  (merge inherited declared).map fun field =>
    let name := field.field.name
    match declared.reverse.find? fun other => other.field.name = name && other.isAssigned with
    | some assigned =>
      { field with field := { field.field with fallback := assigned.field.fallback } }
    | none => if hides name then field.hidingMember else field

/-- The properties carried by the last declaration of a field that has any. -/
def lastExtra (declarations : List FieldDeclaration) (name : String) : List (String × Value) :=
  ((declarations.reverse.find? fun field => field.name = name && !field.extra.isEmpty).map
    FieldDeclaration.extra).getD []

/-- Declared fields, of which the last one counts where several have one name. -/
def lastDeclarations (declarations : List FieldDeclaration) : List FieldDeclaration :=
  (Entries.putAll []
    (declarations.map fun field =>
      (field.name, { field with extra := lastExtra declarations field.name }))).map Prod.snd

/-- Whether two declared fields have the same type and equal options. -/
def annotatedAlike (left right : FieldDeclaration) : Bool :=
  TypeRef.ofDeclared left.type = TypeRef.ofDeclared right.type
    && left.attributes.isEqv right.attributes Attribute.same

/--
Declared fields whose types and options are kept: a field that is like one before it has the
options of the first such field, even where these are equal without being the same.
-/
def shareOptions : (kept : List FieldDeclaration) → List FieldDeclaration → List FieldDeclaration
  | _, [] => []
  | kept, field :: rest =>
    match kept.find? (annotatedAlike field) with
    | some first => { field with attributes := first.attributes } :: shareOptions kept rest
    | none =>
      let isKept := field.attributes.all fun option => option.value.isKey
      field :: shareOptions (if isKept then kept ++ [field] else kept) rest

/-- Declared fields as class fields. -/
def ofDeclarations (declarations : List FieldDeclaration) : List ClassField :=
  (lastDeclarations (shareOptions [] declarations)).map ofDeclaration

/-! ## Properties that cannot be used -/

/-- Whether another key is something that counts as true but is no text. -/
def hasUnusableKey (properties : List (String × Value)) : Bool :=
  (properties.lookup "validation_alias").any fun key => key.truthy && key.asText?.isNone

/-- The fault of the properties of one declaration. -/
def propertyFault? (declaration : FieldDeclaration) : Option FieldFault :=
  if hasUnusableKey declaration.extra then some .unusableKey
  else if (declaration.extra.lookup "default").isSome
      && (property? declaration.extra "default_factory").isSome then some .twoDefaults
  else none

/-- The fault of a name that cannot have properties. -/
def nameFault? (declaration : FieldDeclaration) : Option FieldFault :=
  if declaration.extra.isEmpty || isFieldName declaration.name then none
  else some (.hiddenName declaration.name)

/-- The beginnings of names that are kept for the members of records. -/
def takenBeginnings : List String := ["model_validate", "model_dump"]

/-- The members of records whose names no field may have. -/
def takenNames : List String :=
  ["model_validate", "model_validate_json", "model_validate_strings", "model_dump",
    "model_dump_json"]

/-- The fault of a field with the name of a member that the class at a path has. -/
def takenFault? (path name : String) : Option FieldFault :=
  if takenNames.contains name then
    (takenBeginnings.find? fun beginning => beginning.toList.isPrefixOf name.toList).map
      (FieldFault.takenName name path)
  else none

/-- The fault of a class name with a null character. -/
def classFault? (name : String) : Option FieldFault :=
  if name.toList.contains (Char.ofNat 0) then some .nullName else none

/-- The fault of a field whose values nothing says how to read; `accepts` tells whether it may. -/
def readingFault? (accepts : Bool) (name : String) (type : TypeRef) : Option FieldFault :=
  if accepts || !isFieldName name then none else type.unread?.map .unreadType

/-- Check the name and the fields of a class that extends the one at a path. -/
def checkFields (accepts : Bool) (name path : String) (fields : List ClassField) :
    Except FieldFault Unit :=
  match (classFault? name).or
      ((fields.findSome? fun field => takenFault? path field.field.name).or
        (fields.findSome? fun field =>
          readingFault? accepts field.field.name field.field.type)) with
  | some cause => .error cause
  | none => .ok ()

/-- The fault of a declared field whose type knows nothing of one of its properties. -/
def propertyTypeFault? (declaration : FieldDeclaration) : Option FieldFault :=
  let type := TypeRef.ofDeclared declaration.type
  let laid := Limit.lay type (Limit.ofEntries declaration.extra)
  let has (key : String) : Bool := (property? declaration.extra key).isSome
  let allowsInfinity := laid.foreign.any fun limit =>
    match limit with
    | .infinite allowed => allowed
    | _ => false
  if has "strict" && type.kindName = TypeRef.anything.kindName then
    some (.unsuited "strict" type.kindName)
  else if has "fail_fast" && laid.typeKind ≠ TypeRef.list.kindName then
    some (.unsuited "fail_fast" laid.typeKind)
  else if allowsInfinity then some (.unsuited "allow_inf_nan" laid.typeKind)
  else if has "union_mode" then some (.unsuited "union_mode" laid.typeKind)
  else none

/-- The fault of the type of a declared field. -/
def typeFault? (accepts : Bool) (declaration : FieldDeclaration) : Option FieldFault :=
  (readingFault? accepts declaration.name (.ofDeclared declaration.type)).or
    (propertyTypeFault? declaration)

/-- The kinds of the readers around the pattern of a declared field, if any reader has it. -/
def patternReaders? (declaration : FieldDeclaration) : Option (List String) :=
  let type := TypeRef.ofDeclared declaration.type
  let laid := Limit.lay type (Limit.ofEntries declaration.extra)
  let hasPattern (limits : List Limit) : Bool := limits.any fun limit => limit.name = "pattern"
  let defaulted :=
    match fallbackOf declaration.extra with
    | .required => []
    | _ => ["default"]
  let outer := defaulted ++ if type.isOptional then ["nullable"] else []
  if hasPattern laid.foreign then some (outer ++ ["chain", "function-wrap", "str"])
  else if hasPattern laid.own && type.kindName = TypeRef.text.kindName then
    some (outer ++ ["str"])
  else none

/-- The fault of a declared field whose pattern cannot be read. -/
def patternFault? (declaration : FieldDeclaration) : Option FieldFault := do
  let pattern ← textProperty? declaration.extra "pattern"
  let readers ← patternReaders? declaration
  match Text.Pattern.ofText pattern with
  | .error cause => some (.unreadPattern declaration.name readers pattern cause)
  | .ok _ => none

/--
The first fault of a name and of declared fields, for a class that extends the one at a path: of
properties, then of names, then of types, then of patterns.
-/
def fault? (accepts : Bool) (name path : String) (declarations : List FieldDeclaration) :
    Option FieldFault :=
  (declarations.findSome? propertyFault?).or
    ((declarations.findSome? nameFault?).or
      ((classFault? name).or
        ((declarations.findSome? fun field => takenFault? path field.name).or
          (((lastDeclarations declarations).findSome? (typeFault? accepts)).or
            ((lastDeclarations declarations).findSome? patternFault?)))))

/-- Check a name and declared fields before a class is made that extends the one at a path. -/
def checkDeclarations (accepts : Bool) (name path : String)
    (declarations : List FieldDeclaration) : Except FieldFault Unit :=
  match fault? accepts name path declarations with
  | some cause => .error cause
  | none => .ok ()

end ClassField

end SqlMapping
