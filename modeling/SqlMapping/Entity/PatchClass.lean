import SqlMapping.Entity.TableClass
import SqlMapping.Failure

/-!
# Patch classes and the classes of a session

A patch class names the entity it belongs to: as a class, or by the dotted path of one.

The classes of a session are kept together, each with its position as its identity.  Table
classes are values, and patch classes have numbers, because compiling one changes it.  Names of
loaded modules lead to classes, to other modules and to anything else; a class can have several
names, in several modules, and none of them needs to be the one that it was defined with.
-/

namespace SqlMapping

/-- A patch with its statement and the backend that generated it. -/
structure CompiledPatch where
  plan : PatchPlan
  backend : Backend

/-- The declaration of a patch and the path of the entity it belongs to. -/
structure PatchTarget where
  declaration : Declaration
  path : String

/-- A patch class. -/
structure PatchClass where
  name : String
  path : String
  /-- The numbers of the extended patch classes, nearest first. -/
  extended : List Nat := []
  fields : List ClassField := []
  /-- The members that the class is defined with. -/
  members : List (String × Member) := []
  target : Option PatchTarget := none
  compiled : Option CompiledPatch := none
  /-- The options of the model, those of extended classes included. -/
  config : List (String × Value) := []
  /-- How the objects of classes in fields are read. -/
  style : ReadingStyle := {}

namespace PatchClass

/-- The members that patches have besides those of every record. -/
def commonMembers : List String :=
  ["compiled", "targets", "patch_row", "apply_to", "_compile"]

/-- The model that patches are read into. -/
def model (patch : PatchClass) : Model where
  name := patch.name
  fields := patch.fields.map ClassField.field
  config := ModelConfig.ofClass patch.config patch.style

end PatchClass

/-- A class of a session. -/
inductive DefinedClass where
  | table (table : TableClass)
  | patch (number : Nat)

/-! ## What names lead to -/

/-- Something that a name leads to. -/
inductive Thing where
  /-- A class of the session. -/
  | defined (entry : DefinedClass)
  /-- The insert model of a table class. -/
  | insertModel (owner : TableClass)
  /-- A module, by its dotted name. -/
  | module (name : String)
  /-- Anything else, by its number. -/
  | other (number : Nat)

/-- What is known of anything else that names lead to. -/
structure OtherThing where
  isClass : Bool := true
  /-- What its members lead to. -/
  members : List (String × Thing) := []

/-- What is there besides the classes of a session. -/
structure Surroundings where
  /-- Everything that is neither a module nor a class of the session, by its number. -/
  things : List OtherThing
  /-- What the members lead to that every class of records has. -/
  recordMembers : List (String × Thing)
  /-- The classes that table classes, patch classes and insert models extend in the end. -/
  tableRoot : Thing
  patchRoot : Thing
  insertRoot : Thing

namespace Surroundings

/-- The member of a class that leads to its own class. -/
def ownClass : String := TableClass.specialName "class"

/-- The member of a class that leads to the class that it extends. -/
def ownBase : String := TableClass.specialName "base"

/-- The class that all classes extend, and the class of classes. -/
def universal : Thing := .other 0
def classOfClasses : Thing := .other 1

/-- A class that extends no other one than all do. -/
def plainClass : Thing := .other 2

/-- A member of a class that is no class itself. -/
def plainMember : Thing := .other 3

/-- The class of the classes of records, and the class that these extend. -/
def classOfRecords : Thing := .other 4
def record : Thing := .other 5

/-- A class with its own class and the class that it extends. -/
def classOver (own base : Thing) : OtherThing where
  members := [(ownClass, own), (ownBase, base)]

/-- The things that are always there. -/
def standard : Surroundings where
  things :=
    [{ members := [(ownClass, classOfClasses)] },
      classOver classOfClasses universal,
      classOver classOfClasses universal,
      { isClass := false, members := [(ownClass, plainClass)] },
      classOver classOfClasses classOfClasses,
      classOver classOfRecords universal,
      classOver classOfRecords record,
      classOver classOfRecords record,
      classOver classOfRecords record]
  recordMembers := (ownClass, classOfRecords)
    :: (TableClass.recordMembers ++ TableClass.retiredMembers ++ TableClass.classMembers).map
      fun name => (name, plainMember)
  tableRoot := .other 6
  patchRoot := .other 7
  insertRoot := .other 8

end Surroundings

/-- All classes of a session. -/
structure Classes where
  /-- The name of the module that classes belong to unless they are defined in another one. -/
  moduleName : String
  /-- The paths of the classes that every table class extends. -/
  rootPaths : List String := []
  /-- The path of the class that every patch class extends. -/
  patchRoot : String := ""
  patches : List PatchClass := []
  /-- The classes in the order in which they were defined; their positions identify them. -/
  defined : List DefinedClass := []
  surroundings : Surroundings := .standard
  /-- The loaded modules by their dotted names, each with what the names in it lead to. -/
  modules : List (String × List (String × Thing)) := [(moduleName, [])]

/-- What a dotted path leads to. -/
inductive PathTarget where
  /-- A table class, which may have a schema. -/
  | table (table : TableClass)
  /-- A class without a schema. -/
  | plain

namespace PathTarget

/-- The schema of the class that a path leads to, if it has one. -/
def schema? : PathTarget → Option TableSchema
  | .table found => found.compiled?.map fun compiled => compiled.plan.schema
  | .plain => none

end PathTarget

namespace Classes

/-- What a class leads to. -/
def targetOf : DefinedClass → PathTarget
  | .table found => .table found
  | .patch _ => .plain

/-- The names that a dotted path consists of. -/
def partsOf (path : String) : List String :=
  (path.toList.splitOn '.').map String.ofList

/-- The dotted path of some names. -/
def joinParts (parts : List String) : String := ".".intercalate parts

/-- The patch class of a number. -/
def patch? (classes : Classes) (number : Nat) : Option PatchClass :=
  classes.patches[number]?

/-- A patch class and the classes it extends, nearest first. -/
def patchLayers (classes : Classes) (patch : PatchClass) : List PatchClass :=
  patch :: patch.extended.filterMap classes.patch?

/-- Replace a patch class. -/
def setPatch (classes : Classes) (number : Nat) (patch : PatchClass) : Classes :=
  { classes with patches := classes.patches.set number patch }

/-- Whether a module is loaded. -/
def isLoaded (classes : Classes) (moduleName : String) : Bool :=
  (classes.modules.lookup moduleName).isSome

/-- What the names in a module lead to. -/
def namesIn (classes : Classes) (moduleName : String) : List (String × Thing) :=
  (classes.modules.lookup moduleName).getD []

/-- Let the names in a loaded module lead elsewhere. -/
def setNames (classes : Classes) (moduleName : String) (names : List (String × Thing)) : Classes :=
  if classes.isLoaded moduleName then
    { classes with modules := Entries.put classes.modules moduleName names }
  else classes

/-- Let a name in a loaded module lead to something. -/
def bind (classes : Classes) (moduleName name : String) (thing : Thing) : Classes :=
  classes.setNames moduleName (Entries.put (classes.namesIn moduleName) name thing)

/-- Let a name in a loaded module lead nowhere. -/
def unbind (classes : Classes) (moduleName name : String) : Classes :=
  classes.setNames moduleName
    ((classes.namesIn moduleName).filter fun entry => entry.1 ≠ name)

/-- Add a class, and let its name in a module lead to it unless it is hidden. -/
def add (classes : Classes) (moduleName name : String) (isHidden : Bool) (entry : DefinedClass) :
    Classes :=
  let added := { classes with defined := classes.defined ++ [entry] }
  if isHidden then added else added.bind moduleName name (.defined entry)

/-- Bind the last name of a dotted path in the module of the others, which is loaded for that. -/
def bindPath (modules : List (String × List (String × Thing))) (path : String) (thing : Thing) :
    List (String × List (String × Thing)) :=
  let parts := partsOf path
  let moduleName := joinParts parts.dropLast
  Entries.put modules moduleName
    (Entries.put ((modules.lookup moduleName).getD []) (parts.getLastD path) thing)

/--
The modules that are loaded from the start: that of the classes, and those of the classes that
records extend and of the types that are always there.
-/
def standardModules (moduleName : String) (rootPaths : List String) (patchRoot : String) :
    List (String × List (String × Thing)) :=
  let roots := rootPaths.zip [.other 6, Surroundings.record, Surroundings.universal]
  let types := (TypeRef.simple.filterMap TypeRef.path?).map fun path =>
    (path, Surroundings.plainClass)
  (roots ++ (patchRoot, .other 7) :: types).foldl
    (fun modules entry => bindPath modules entry.1 entry.2) [(moduleName, [])]

/-- The class of an identity. -/
def class? (classes : Classes) (identity : Nat) : Option DefinedClass :=
  classes.defined[identity]?

/-- The path of a class. -/
def pathOfClass (classes : Classes) : DefinedClass → String
  | .table found => found.own.path
  | .patch number => ((classes.patch? number).map PatchClass.path).getD ""

/-- The type that a class is. -/
def typeOf (classes : Classes) (identity : Nat) : TypeRef :=
  .entity identity (((classes.class? identity).map classes.pathOfClass).getD "")

/-- What the class leads to that a type stands for. -/
def targetOfType (classes : Classes) : TypeRef → PathTarget
  | .entity identity _ => ((classes.class? identity).map targetOf).getD .plain
  | _ => .plain

/-- The model of a class. -/
def modelOf? (classes : Classes) : DefinedClass → Option Model
  | .table found => some found.model
  | .patch number => (classes.patch? number).map PatchClass.model

/-- Read a value as an object of the class of an identity. -/
def readObject (classes : Classes) (identity : Nat) (value : Value) : Checked Value :=
  match (classes.class? identity).bind classes.modelOf? with
  | some model => model.readRecord value
  | none => Checked.issue .notAnInstance

/-- How the fields of a class that is defined now are read. -/
def style (classes : Classes) : ReadingStyle where
  entity := classes.readObject

/-! ## Following paths -/

/-- The class that a table class extends directly. -/
def baseOf (classes : Classes) (table : TableClass) : Thing :=
  match table.extended with
  | nearest :: others => .defined (.table ⟨nearest, others⟩)
  | [] => classes.surroundings.tableRoot

/-- The class that a patch class extends directly. -/
def baseOfPatch (classes : Classes) (patch : PatchClass) : Thing :=
  match patch.extended with
  | nearest :: _ => .defined (.patch nearest)
  | [] => classes.surroundings.patchRoot

/-- What a member that every class of records has leads to, if it does not depend on the class. -/
def recordMember? (classes : Classes) (name : String) : Option Thing :=
  classes.surroundings.recordMembers.lookup name

/-- What a member of a class leads to; `owner` is the class that the member comes from. -/
def ofMember? (classes : Classes) (owner : TableClass) : Member → Option Thing
  | .nested identity => (classes.class? identity).map .defined
  | .insert _ => some (.insertModel owner)
  | .getter _ | .setter _ _ | .deleteRow | .delete | .method => some Surroundings.plainMember

/-- What a member of something leads to. -/
def member? (classes : Classes) (thing : Thing) (name : String) : Option Thing :=
  match thing with
  | .module moduleName => (classes.namesIn moduleName).lookup name
  | .other number => (classes.surroundings.things[number]?).bind fun other =>
      other.members.lookup name
  | .insertModel owner =>
    if name = TableClass.specialName "entity" then some (.defined (.table owner))
    else if name = Surroundings.ownBase then some classes.surroundings.insertRoot
    else classes.recordMember? name
  | .defined (.table table) =>
    if name = Surroundings.ownBase then some (classes.baseOf table)
    else
      match table.member? name with
      | some found => classes.ofMember? (table.owner name) found
      | none => classes.recordMember? name
  | .defined (.patch number) =>
    (classes.patch? number).bind fun patch =>
      if name = Surroundings.ownBase then some (classes.baseOfPatch patch)
      else
        let found? : Option Member :=
          (classes.patchLayers patch).findSome? fun layer => layer.members.lookup name
        match found? with
        | some (.nested identity) => (classes.class? identity).map .defined
        | some _ => some Surroundings.plainMember
        | none => classes.recordMember? name

/-- The class that something is, if it is a class. -/
def target? (classes : Classes) : Thing → Option PathTarget
  | .defined entry => some (targetOf entry)
  | .insertModel _ => some .plain
  | .module _ => none
  | .other number =>
    if (classes.surroundings.things[number]?).any OtherThing.isClass then some .plain else none

/-- Follow names from one thing to the next, to a class. -/
def walk (classes : Classes) (start : Thing) (names : List String) : Option PathTarget :=
  (names.foldlM classes.member? start).bind classes.target?

/--
The ways to take a dotted path for the name of a module and names in it, with the longest name of a
module first.
-/
def placesOf (path : String) : List (String × List String) :=
  let parts := partsOf path
  (List.range (parts.length - 1)).reverse.map fun last =>
    (joinParts (parts.take (last + 1)), parts.drop (last + 1))

/-- The class that a dotted path leads to through the longest module on it that is loaded. -/
def lookupEntity (classes : Classes) (path : String) : Option PathTarget :=
  ((placesOf path).find? fun place => classes.isLoaded place.1).bind fun place =>
    classes.walk (.module place.1) place.2

mutual

/-- Replace the names of classes in a value by the classes. -/
def resolveNames (types : String → Option TypeRef) : Value → Except Failure Value
  | .classNamed name =>
    match types name with
    | some reference => .ok (.type reference)
    | none => .error (.unknownName name)
  | .list items => (resolveAll types items).map .list
  | .tuple items => (resolveAll types items).map .tuple
  | .object entries => (resolveEntries types entries).map .object
  | .lookupOption name argumentType =>
    (resolveNames types argumentType).map (.lookupOption name)
  | .insertOption name config => (resolveEntries types config).map (.insertOption name)
  | value => .ok value

/-- Replace the names of classes in several values. -/
def resolveAll (types : String → Option TypeRef) : List Value → Except Failure (List Value)
  | [] => .ok []
  | value :: rest => do
    let value ← resolveNames types value
    let rest ← resolveAll types rest
    return value :: rest

/-- Replace the names of classes in the values of some entries. -/
def resolveEntries (types : String → Option TypeRef) :
    List (String × Value) → Except Failure (List (String × Value))
  | [] => .ok []
  | (key, value) :: rest => do
    let value ← resolveNames types value
    let rest ← resolveEntries types rest
    return (key, value) :: rest

end

/-! ## Defining and compiling patches -/

/-- The option that names the entity of a patch. -/
def targetOption? (declaration : Declaration) : Option Value :=
  (declaration.attributes.find? fun option => option.key = "table").map Attribute.value

/-- The part of a dotted path that a value which is no class lacks. -/
def missingPathPart : Value → String
  | .written .decimal _ | .written .uuid _ | .lookupOption _ _ | .insertOption _ _
  | .type _ => "__qualname__"
  | _ => "__module__"

/-- The dotted path that the entity option of a patch gives. -/
def targetPath : Option Value → Except Failure String
  | none | some .null => .ok ""
  | some (.text path) => .ok path
  | some value =>
    match value with
    | .type reference =>
      match reference.path? with
      | some path => .ok path
      | none => .error (.missingMember (missingPathPart value))
    | _ => .error (.missingMember (missingPathPart value))

/-- Check a patch declaration against what its target leads to, and generate its statement. -/
def compileDeclared (workspace : Workspace) (declaration : Declaration) (target : PathTarget) :
    Report CompiledPatch := do
  let plan ← compilePatch workspace .configured target.schema? declaration
  let backend ← Report.ofExcept (workspace.resolve (.ofKey? plan.schema.backend))
  return ⟨plan, backend⟩

/-- Compile a patch when its class is defined, unless its path does not lead anywhere yet. -/
def compileEarly (workspace : Workspace) (classes : Classes) (declaration : Declaration) :
    Report (Option CompiledPatch) :=
  match targetOption? declaration with
  | some (.text path) =>
    match classes.lookupEntity path with
    | some target => some <$> compileDeclared workspace declaration target
    | none => .pure none
  | some (.type reference) =>
    some <$> compileDeclared workspace declaration (classes.targetOfType reference)
  | _ => some <$> compileDeclared workspace declaration .plain

/-- The patch class of a definition before it is compiled. -/
def patchOfDefinition (classes : Classes) (base : Option Nat) (definition : ClassDefinition) :
    PatchClass :=
  let nearest := base.bind classes.patch?
  let isMember (name : String) : Bool :=
    (nearest.any fun patch =>
        (classes.patchLayers patch).any fun layer => (layer.members.lookup name).isSome)
      || (TableClass.hiddenMembers ++ PatchClass.commonMembers).contains name
  let fields := definition.fieldsOver isMember ((nearest.map PatchClass.fields).getD [])
  { name := definition.name
    path := definition.path
    extended :=
      match base with
      | some number => number :: ((classes.patch? number).map PatchClass.extended).getD []
      | none => []
    fields := fields
    members := definition.membersBeside fields
    config := definition.configOver ((nearest.map PatchClass.config).getD [])
    style := definition.style }

end Classes

end SqlMapping
