import SqlMapping.Entity.PatchClass

/-!
# Loading modules

A dotted path can name a class of a module that is not loaded yet.  To follow it, the longest module
on it that there is gets loaded.  What the code of a module defines and which names it binds is up
to a loader; it may fail, and it may find that there is no such module.

Main statements: a class that is found without loading is the one that is found by loading, and a
path that is followed by loading is searched in the module that was loaded for it.
-/

namespace SqlMapping

/-- Why a module is not there although it was asked for. -/
inductive LoadFault where
  /-- No module can have the name. -/
  | unusable (cause : ModulePathFault)
  /-- A module was not found, whose name may be known. -/
  | missing (name : Option String) (fault : Fault)
  /-- The code of a module raised something else. -/
  | raised (fault : Fault)

namespace LoadFault

/-- The failure of what asked for the module. -/
def failure : LoadFault → Failure
  | .unusable cause => .modulePath cause
  | .missing _ fault | .raised fault => .raised fault

/-- Whether a module was not found that is the one asked for or contains it. -/
def isAbsenceOf (moduleName : String) : LoadFault → Bool
  | .missing (some name) _ => (name ++ ".").toList.isPrefixOf (moduleName ++ ".").toList
  | _ => false

end LoadFault

/-- What asking for a module gives, and what the classes of the session are after it. -/
structure Loading (α : Type) where
  classes : Classes
  notices : List Notice := []
  outcome : Except LoadFault α

/--
Classes and loaded modules as they can be after code that defined further classes: those that were
there are as before, and still have their numbers.
-/
structure Classes.IsExtendedBy (before after : Classes) : Prop where
  moduleName : after.moduleName = before.moduleName
  rootPaths : after.rootPaths = before.rootPaths
  patches : before.patches <+: after.patches
  defined : before.defined <+: after.defined

theorem Classes.IsExtendedBy.refl (classes : Classes) : classes.IsExtendedBy classes :=
  ⟨rfl, rfl, List.prefix_refl _, List.prefix_refl _⟩

theorem Classes.IsExtendedBy.trans
    {first middle last : Classes}
    (early : first.IsExtendedBy middle)
    (late : middle.IsExtendedBy last) :
    first.IsExtendedBy last where
  moduleName := late.moduleName.trans early.moduleName
  rootPaths := late.rootPaths.trans early.rootPaths
  patches := early.patches.trans late.patches
  defined := early.defined.trans late.defined

/-- What loads a module that is not loaded yet, by running its code. -/
structure Loader where
  load : Workspace → Classes → String → Loading Unit
  isExtended (workspace : Workspace) (classes : Classes) (name : String) :
    classes.IsExtendedBy (load workspace classes name).classes

namespace Loader

/-- The fault of a module that is not found. -/
def notFound (name : String) : LoadFault :=
  .missing (some name)
    { kind := .ordinary
      name := "ModuleNotFoundError"
      text := "No module named " ++ Text.quoteText name }

/-- A loader that finds no module. -/
def nothing : Loader where
  load _ classes name := { classes := classes, outcome := .error (notFound name) }
  isExtended _ classes _ := .refl classes

/-- Why no module has a name, whatever modules there are. -/
def nameFault? (name : String) : Option ModulePathFault :=
  if name.isEmpty then some .empty
  else if name.toList.head? = some '.' then some (.relative name)
  else none

/-- Ask for a module, which is loaded if it is not there yet. -/
def importModule (loader : Loader) (workspace : Workspace) (classes : Classes) (name : String) :
    Loading Unit :=
  match nameFault? name with
  | some cause => { classes := classes, outcome := .error (.unusable cause) }
  | none =>
    if classes.isLoaded name then { classes := classes, outcome := .ok () }
    else loader.load workspace classes name

/--
Follow the names of the first place whose module is there, which is loaded for that; a fault other
than the absence of the module ends the search.
-/
def searchPlaces (loader : Loader) (workspace : Workspace) (classes : Classes) :
    List (String × List String) → Loading (Option PathTarget)
  | [] => { classes := classes, outcome := .ok none }
  | (moduleName, names) :: rest =>
    let loading := loader.importModule workspace classes moduleName
    match loading.outcome with
    | .ok _ => { loading with outcome := .ok (loading.classes.walk (.module moduleName) names) }
    | .error fault =>
      if fault.isAbsenceOf moduleName then
        let found := searchPlaces loader workspace loading.classes rest
        { found with notices := loading.notices ++ found.notices }
      else { loading with outcome := .error fault }

/--
The class that a dotted path leads to: through the longest module on it that is loaded, or else
through the longest one that there is.
-/
def importEntity (loader : Loader) (workspace : Workspace) (classes : Classes) (path : String) :
    Loading (Option PathTarget) :=
  match classes.lookupEntity path with
  | some found => { classes := classes, outcome := .ok (some found) }
  | none => searchPlaces loader workspace classes (Classes.placesOf path)

variable {loader : Loader} {workspace : Workspace} {classes : Classes} {path : String}

/-- A class that is found without loading is the one that is found by loading. -/
theorem importEntity_of_lookupEntity
    {found : PathTarget}
    (leads : classes.lookupEntity path = some found) :
    loader.importEntity workspace classes path =
      { classes := classes, outcome := .ok (some found) } := by
  rw [importEntity, leads]

theorem isExtendedBy_importModule (name : String) :
    classes.IsExtendedBy (loader.importModule workspace classes name).classes := by
  rw [importModule]
  split
  · exact .refl classes
  · split
    · exact .refl classes
    · exact loader.isExtended workspace classes name

theorem isExtendedBy_searchPlaces (places : List (String × List String)) :
    classes.IsExtendedBy (loader.searchPlaces workspace classes places).classes := by
  induction places generalizing classes with
  | nil => exact .refl classes
  | cons place rest inductionHypothesis =>
      have extended := @isExtendedBy_importModule loader workspace classes place.1
      rw [searchPlaces]
      dsimp only
      split
      · exact extended
      · split
        · exact extended.trans inductionHypothesis
        · exact extended

/-- Following a path adds to the classes that there are, whatever comes of it. -/
theorem isExtendedBy_importEntity (path : String) :
    classes.IsExtendedBy (loader.importEntity workspace classes path).classes := by
  rw [importEntity]
  cases classes.lookupEntity path with
  | some found => exact .refl classes
  | none => exact isExtendedBy_searchPlaces _

end Loader

end SqlMapping
