import SqlMapping.Proofs.Session.Deferral

/-!
# The order in which an entity and its patch are defined

A patch class that names its entity by a dotted path is compiled when it is defined, if the path
leads somewhere through the modules that are loaded by then, and otherwise when it is first used,
for which modules on the path are loaded.  The schema of the entity and the registered backends
decide what it is compiled to, and neither depends on the order.

The main statement says that whether the entity or the patch is defined first makes no difference
to the schema, the statement and the backend of the patch, or to the refusal of its declaration.
-/

namespace SqlMapping

namespace Session

open SessionAction

/--
In a session, a request asks for a patch class that extends no other and names its entity by the
path of a target, whose declaration its options and fields make.
-/
structure AsksFor
    (session : Session)
    (request : ClassRequest)
    (target : PatchTarget) :
    Prop where
  isDirect : request.base = none
  declares :
    ∃ (definition : ClassDefinition) (attributes : List Attribute),
      (definitionOf request).on session = (.ok definition, session) ∧
        definition.marker = .options attributes ∧
        ClassField.checkFields
            (session.classes.patchOfDefinition none definition).model.config.acceptsForeign
            request.name session.classes.patchRoot request.fields =
          .ok () ∧
        target.declaration =
          ClassDefinition.declaration definition.name attributes
            (session.classes.patchOfDefinition none definition).fields
  isPath : Classes.targetOption? target.declaration = some (.text target.path)

end Session

namespace SessionAction

variable {α : Type} {session : Session}

theorem on_require
    {outcome : Except Failure α}
    {value : α}
    (isOk : outcome = .ok value) :
    (require outcome).on session = (.ok value, session) := by
  rw [isOk]
  rfl

theorem keeps_patches_holdClass
    (home : Option String)
    (name : String)
    (isHidden : Bool)
    (entry : DefinedClass) :
    Keeps (fun session => session.classes.patches) (holdClass home name isHidden entry) := by
  refine keeps_get.bind fun seen => ?_
  refine Keeps.bind (keeps_modify fun _ => Classes.patches_add _ _ _ _) fun _ session => ?_
  exact congrArg (fun catalogue => catalogue.classes.patches) (keeps_hold _ _ session)

/-- Holding a class fails only if a stream that was held under its name cannot be ended. -/
theorem failsWithin_holdClass
    (home : Option String)
    (name : String)
    (isHidden : Bool)
    (entry : DefinedClass) :
    FailsWithin session (fun failure => ∀ error, failure ≠ .refused error)
      (holdClass home name isHidden entry) := by
  refine failsWithin_get.bind fun seen _ _ => ?_
  refine (failsWithin_modify _).bind fun _ _ _ => ?_
  refine failsWithin_get.bind fun replaced _ _ => ?_
  refine (failsWithin_modify _).bind fun _ _ _ => ?_
  refine (failsWithin_modify _).bind fun _ _ _ => ?_
  split
  · refine FailsWithin.bind ?_ fun _ _ _ => failsWithin_pure _
    refine FailsWithin.bind ?_ fun _ _ _ => failsWithin_pure _
    refine failsWithin_through ?_ ?_
    · intro error impossible
      cases impossible
    · intro connection failure failed
      cases failed
  · exact failsWithin_pure _

theorem addPatch_spec
    (session : Session)
    (home : Option String)
    (isHidden : Bool)
    (patch : PatchClass) :
    ((addPatch home isHidden patch).on session).2.classes.patch? session.classes.patches.length =
        some patch ∧
      ∀ error, ((addPatch home isHidden patch).on session).1 ≠ .error (.refused error) := by
  constructor
  · have keeps :=
      (keeps_patches_holdClass home patch.name isHidden
          (.patch session.classes.patches.length)).bind
        fun _ => keeps_pure (StepResult.patch patch)
    have added :
        ((addPatch home isHidden patch).on session).2.classes.patches =
          session.classes.patches ++ [patch] :=
      keeps _
    rw [Classes.patch?, added]
    exact List.getElem?_concat_length
  · intro error refused
    have fails :
        FailsWithin session (fun failure => ∀ error, failure ≠ .refused error)
          (addPatch home isHidden patch) := by
      refine failsWithin_get.bind fun seen _ _ => ?_
      refine (failsWithin_modify _).bind fun _ _ _ => ?_
      exact (failsWithin_holdClass _ _ _ _).bind fun _ _ _ => failsWithin_pure _
    exact fails _ refused error rfl

end SessionAction

namespace Session

open SessionAction

variable {session : Session} {request : ClassRequest} {target : PatchTarget}

/-- A patch class that is asked for is compiled early, if this is possible, and then added. -/
theorem AsksFor.exists_on_definePatch (asks : session.AsksFor request target) :
    ∃ bare : PatchClass,
      bare.name = target.declaration.name ∧ bare.extended = [] ∧
        (definePatch request).on session =
          (ofReport
              (Classes.compileEarly session.workspace session.classes target.declaration) >>=
            fun compiled =>
              addPatch request.moduleName request.isUnbound
                { bare with target := some target, compiled := compiled }).on session := by
  rcases asks with
    ⟨isDirect, ⟨definition, attributes, isOn, marker, accepted, declares⟩, isPath⟩
  refine ⟨session.classes.patchOfDefinition none definition, ?_, rfl, ?_⟩
  · rw [declares]
    rfl
  have sameDeclaration :
      ClassDefinition.declaration (session.classes.patchOfDefinition none definition).name
          attributes (session.classes.patchOfDefinition none definition).fields =
        target.declaration := by
    rw [declares]
    rfl
  have isAccepted :
      (ClassField.checkFields
            (session.classes.patchOfDefinition none definition).model.config.acceptsForeign
            request.name session.classes.patchRoot request.fields).mapError
          Failure.unusableField =
        .ok () := by
    rw [accepted]
    rfl
  have readsPath :
      Classes.targetPath (Classes.targetOption? target.declaration) = .ok target.path := by
    rw [isPath]
    rfl
  rw [definePatch, isDirect]
  dsimp only
  rw [pure_bind, on_bind_of_on isOn, on_bind_of_on on_get]
  dsimp only [Option.bind_none, Option.map_none, Option.getD_none]
  rw [on_bind_of_on (on_require isAccepted), marker]
  dsimp only
  rw [compileDefined, bind_assoc, on_bind_of_on on_get]
  dsimp only
  rw [sameDeclaration, bind_assoc, on_bind_of_on (on_require readsPath), bind_assoc]
  simp only [pure_bind]
  rfl

/--
Defining a patch class compiles it, to the statement that it has from then on, or refuses its
declaration and leaves the classes as they were.
-/
def CompilesAtDefinition
    (session : Session)
    (request : ClassRequest)
    (outcome : Except BuildError CompiledPatch) :
    Prop :=
  ∃ (result : Except Failure StepResult) (after : Session),
    (definePatch request).on session = (result, after) ∧
      match outcome with
      | .ok compiled =>
        after.Settles session.classes.patches.length compiled ∧
          ∀ error, result ≠ .error (.refused error)
      | .error error => result = .error (.refused error) ∧ after.classes = session.classes

theorem AsksFor.compileEarly_eq
    (asks : session.AsksFor request target) :
    Classes.compileEarly session.workspace session.classes target.declaration =
      (session.classes.lookupEntity target.path).elim (.pure none) fun found =>
        some <$> Classes.compileDeclared session.workspace target.declaration found := by
  rw [Classes.compileEarly, asks.isPath]
  dsimp only
  cases session.classes.lookupEntity target.path with
  | none => rfl
  | some found => rfl

/-- A patch class whose path leads somewhere is compiled when it is defined. -/
theorem AsksFor.compilesAtDefinition
    {found : PathTarget}
    (asks : session.AsksFor request target)
    (leads : session.classes.lookupEntity target.path = some found) :
    session.CompilesAtDefinition request
      (Classes.compileDeclared session.workspace target.declaration found).outcome := by
  rcases asks.exists_on_definePatch with ⟨bare, -, -, isOn⟩
  rw [asks.compileEarly_eq, leads, Option.elim_some] at isOn
  generalize Classes.compileDeclared session.workspace target.declaration found = report at isOn ⊢
  rcases report with ⟨notices, outcome⟩
  cases outcome with
  | error error =>
      exact ⟨_, { session with notices := session.notices ++ notices }, isOn, rfl, rfl⟩
  | ok compiled =>
      let noticed : Session := { session with notices := session.notices ++ (notices ++ []) }
      let patch : PatchClass := { bare with target := some target, compiled := some compiled }
      have added := addPatch_spec noticed request.moduleName request.isUnbound patch
      exact ⟨_, _, isOn, HasCompiled.settles ⟨patch, added.1, rfl⟩, added.2⟩

/-- A patch class whose path leads nowhere yet is not compiled when it is defined. -/
theorem AsksFor.waitsAfterDefinition
    (asks : session.AsksFor request target)
    (leadsNowhere : session.classes.lookupEntity target.path = none) :
    ∃ (result : Except Failure StepResult) (after : Session),
      (definePatch request).on session = (result, after) ∧
        after.Waits session.classes.patches.length target ∧
          ∀ error, result ≠ .error (.refused error) := by
  rcases asks.exists_on_definePatch with ⟨bare, name, extended, isOn⟩
  rw [asks.compileEarly_eq, leadsNowhere, Option.elim_none] at isOn
  let noticed : Session := { session with notices := session.notices ++ [] }
  let patch : PatchClass := { bare with target := some target, compiled := none }
  have added := addPatch_spec noticed request.moduleName request.isUnbound patch
  exact ⟨_, _, isOn, ⟨patch, added.1, name, extended, rfl, rfl⟩, added.2⟩

/--
A session in which a patch class waits for an entity: until the path of the class leads somewhere
its uses are refused, unless the code of a module on the path fails, and once it leads to the entity
the first use has the given outcome.
-/
structure Awaits
    (session : Session)
    (number : Nat)
    (target : PatchTarget)
    (schema : Option TableSchema)
    (defaultBackend : String)
    (outcome : Except BuildError CompiledPatch) :
    Prop where
  unresolved (leadsNowhere : (session.follow target.path).outcome = .ok none) :
    (compiledPatch number).on session =
      (.error (.refused (.unresolvedPatchTarget target.path target.declaration.name)),
        session.afterFollowing target.path)
  /-- Only the code of a module can fail otherwise, not because it lacks a module on the path. -/
  failed
      (fault : LoadFault)
      (fails : (session.follow target.path).outcome = .error fault) :
      (compiledPatch number).on session =
          (.error fault.failure, session.afterFollowing target.path) ∧
        ∃ (before : Classes) (place : String × List String),
          place ∈ Classes.placesOf target.path ∧
            (session.loader.load session.workspace before place.1).outcome = .error fault ∧
              fault.isAbsenceOf place.1 = false
  waiting : (session.afterFollowing target.path).Waits number target
  /-- The schema of an entity names its backend; without one the default backend is consulted. -/
  resolved
      (bound : TableClass)
      (leads : (session.follow target.path).outcome = .ok (some (.table bound)))
      (sameSchema : (PathTarget.table bound).schema? = schema)
      (isSettled :
        (schema.bind TableSchema.backend).isSome = true ∨
          session.workspace.settings.defaultBackend = defaultBackend) :
      session.CompilesAtFirstUse number target outcome
  uses (connection : String) (operation : Operation) (isUse : session.Uses number operation) :
    session.CompilesBeforeUse number connection operation

/--
Defining a patch class leaves it waiting.  However the session goes on, it waits until it has a
statement, and where it still waits it awaits an entity with a schema.
-/
def CompilesWhenUsed
    (session : Session)
    (request : ClassRequest)
    (target : PatchTarget)
    (schema : Option TableSchema)
    (defaultBackend : String)
    (outcome : Except BuildError CompiledPatch) :
    Prop :=
  ∃ (result : Except Failure StepResult) (first : Session),
    (definePatch request).on session = (result, first) ∧
      (∀ error, result ≠ .error (.refused error)) ∧
        first.Waits session.classes.patches.length target ∧
          ∀ later : Session, first.Course later →
            (later.Waits session.classes.patches.length target ∨
              ∃ compiled, later.Settles session.classes.patches.length compiled) ∧
            (later.Waits session.classes.patches.length target →
              later.Awaits session.classes.patches.length target schema defaultBackend outcome)

/--
Whether an entity or its patch is defined first, the patch is compiled to the same schema,
statement and backend, or its declaration is refused with the same error.  If the patch is first, it
waits until a use compiles it, and nothing is executed for it before that has succeeded.
-/
theorem compilesAlike_of_asksFor
    {early before : Session}
    {entity : TableClass}
    (asksEarly : early.AsksFor request target)
    (asksBefore : before.AsksFor request target)
    (isBound : early.classes.lookupEntity target.path = some (.table entity))
    (isUnbound : before.classes.lookupEntity target.path = none)
    (areNamed :
      ∀ name, early.classes.isLoaded name = true → Loader.nameFault? name = none)
    (sameRegistry : before.workspace.registry = early.workspace.registry) :
    ∃ outcome : Except BuildError CompiledPatch,
      early.CompilesAtDefinition request outcome ∧
        before.CompilesWhenUsed request target (PathTarget.table entity).schema?
          early.workspace.settings.defaultBackend outcome := by
  refine ⟨_, asksEarly.compilesAtDefinition isBound, ?_⟩
  rcases asksBefore.waitsAfterDefinition isUnbound with ⟨result, first, isOn, waits, accepted⟩
  refine ⟨result, first, isOn, accepted, waits, fun later course => ⟨?_, fun waitsLater => ?_⟩⟩
  · refine (course.retains.waits_or_hasCompiled waits).imp id ?_
    rintro ⟨compiled, has⟩
    exact ⟨compiled, has.settles⟩
  have defining : before.Course ((definePatch request).on before).2 :=
    Course.start.performed "" (.definePatch request)
  rw [isOn] at defining
  constructor
  case unresolved => exact waitsLater.on_compiledPatch_of_nowhere
  case failed =>
    intro fault fails
    refine ⟨waitsLater.on_compiledPatch_of_fault fails, ?_⟩
    exact
      Loader.exists_load_of_importEntity (Loader.areUsable_of_lookupEntity areNamed isBound) fails
  case waiting => exact waitsLater.afterFollowing target.path
  case resolved =>
    intro bound leads sameSchema isSettled
    have sameBackends : early.workspace.registry = later.workspace.registry := by
      rw [course.retains.registry, defining.retains.registry, sameRegistry]
    have alike :
        early.workspace.SuitsAlike later.workspace (PathTarget.table entity).schema? :=
      ⟨sameBackends, isSettled.imp id Eq.symm⟩
    rw [Classes.outcome_compileDeclared_eq sameSchema alike]
    exact waitsLater.compilesAtFirstUse leads
  case uses =>
    intro connection operation isUse
    exact isUse.compilesBeforeUse waitsLater connection

end Session

/-! ## A patch of users, defined before or after their module is loaded -/

open SessionAction

/-- Users in a table of a backend that is not the default one. -/
def userDefinition : ClassDefinition where
  name := "User"
  path := "shop.models.User"
  moduleName := "shop.models"
  marker := .options [⟨"backend", .text "sqlite"⟩, ⟨"table", .text "users"⟩, ⟨"id", .text "id"⟩]
  fields := userFields

theorem isOk_define_userDefinition :
    (TableClass.define .standard none userDefinition).outcome.isOk = true := by
  decide +kernel

def userClass : TableClass :=
  .ofAccepted userDefinition isOk_define_userDefinition

/-- The modules of a package: one defines users, and another one has a name for them. -/
def shopModules : List (String × List (String × Thing)) :=
  [("shop", [("models", .module "shop.models"), ("entities", .module "shop.entities")]),
    ("shop.models", [("User", .defined (.table userClass))]),
    ("shop.entities", [("User", .defined (.table userClass))])]

/-- What loads a package, the code of which loads all of its modules. -/
def shopLoader : Loader where
  load _ classes name :=
    if (shopModules.lookup name).isSome then
      { classes :=
          { classes with
            defined := classes.defined ++ [.table userClass]
            modules := classes.modules ++ shopModules }
        outcome := .ok () }
    else { classes := classes, outcome := .error (Loader.notFound name) }
  isExtended _ classes name := by
    split_ifs
    · exact ⟨rfl, rfl, List.prefix_refl _, List.prefix_append _ _⟩
    · exact .refl classes

/-- A patch of users that leaves its backend to them. -/
def renameRequest : ClassRequest where
  name := "Rename"
  marker :=
    .options
      [⟨"table_name", .text "users"⟩, ⟨"table", .text "shop.entities.User"⟩, ⟨"id", .text "id"⟩]
  fields := [{ field := { name := "name", type := .text } }]

/-- What the patch of users is declared to be. -/
def renameTarget : PatchTarget where
  declaration :=
    ClassDefinition.declaration "Rename"
      [⟨"table_name", .text "users"⟩, ⟨"table", .text "shop.entities.User"⟩, ⟨"id", .text "id"⟩]
      [{ field := { name := "name", type := .text } }]
  path := "shop.entities.User"

/-- A session that can load a package and has not done so. -/
def shopSession : Session where
  workspace := .standard
  classes := { moduleName := "app" }
  loader := shopLoader
  connections := [("main", {})]

/-- A session in which the package is loaded. -/
def loadedSession : Session := ((perform "main" (.importModule "shop.models")).on shopSession).2

/-- A session in which the patch was defined and the package is not loaded yet. -/
def lateSession : Session := ((definePatch renameRequest).on shopSession).2

theorem asksFor_shopSession : shopSession.AsksFor renameRequest renameTarget where
  isDirect := rfl
  declares := ⟨_, _, rfl, rfl, by decide +kernel, rfl⟩
  isPath := rfl

theorem asksFor_loadedSession : loadedSession.AsksFor renameRequest renameTarget where
  isDirect := rfl
  declares := ⟨_, _, rfl, rfl, by decide +kernel, rfl⟩
  isPath := rfl

theorem waits_lateSession : lateSession.Waits 0 renameTarget :=
  ⟨_, rfl, rfl, rfl, rfl, rfl⟩

/-- All modules of the session in which the package is loaded have names of modules. -/
theorem nameFault?_of_isLoaded_loadedSession
    {name : String}
    (isLoaded : loadedSession.classes.isLoaded name = true) :
    Loader.nameFault? name = none := by
  rcases Option.isSome_iff_exists.1 isLoaded with ⟨names, isModule⟩
  have member := List.mem_map_of_mem (f := Prod.fst) (Entries.mem_of_lookup isModule)
  have loaded :
      loadedSession.classes.modules.map Prod.fst =
        ["app", "shop", "shop.models", "shop.entities"] := by
    decide +kernel
  rw [loaded] at member
  simp only [List.mem_cons, List.not_mem_nil, or_false] at member
  rcases member with rfl | rfl | rfl | rfl
  all_goals decide +kernel

/--
The patch of users has the backend and the statement that suit users, whether or not their package
is loaded when it is defined.
-/
theorem compilesAlike_renameRequest :
    ∃ compiled : CompiledPatch,
      (loadedSession.AsksFor renameRequest renameTarget ∧
          shopSession.AsksFor renameRequest renameTarget ∧
          loadedSession.classes.lookupEntity renameTarget.path = some (.table userClass) ∧
          shopSession.classes.lookupEntity renameTarget.path = none ∧
          (∀ name, loadedSession.classes.isLoaded name = true →
            Loader.nameFault? name = none) ∧
          shopSession.workspace.registry = loadedSession.workspace.registry) ∧
        loadedSession.CompilesAtDefinition renameRequest (.ok compiled) ∧
        lateSession.classes.isLoaded "shop" = false ∧
        lateSession.CompilesAtFirstUse 0 renameTarget (.ok compiled) ∧
        compiled.plan.statement.sql = "UPDATE users SET name = ? WHERE id = ?" ∧
        compiled.backend.name = "sqlite" := by
  have isBound :
      loadedSession.classes.lookupEntity renameTarget.path = some (.table userClass) := rfl
  have isUnbound : shopSession.classes.lookupEntity renameTarget.path = none := rfl
  have sameRegistry : shopSession.workspace.registry = loadedSession.workspace.registry := rfl
  have areNamed (name : String) :
      loadedSession.classes.isLoaded name = true → Loader.nameFault? name = none :=
    nameFault?_of_isLoaded_loadedSession
  have leads : (lateSession.follow renameTarget.path).outcome = .ok (some (.table userClass)) := rfl
  have hasBackend :
      ((PathTarget.table userClass).schema?.bind TableSchema.backend).isSome = true := by
    decide +kernel
  have generated :
      ((compiledPatch 0).on lateSession).1.toOption.map (fun compiled =>
          (compiled.plan.statement.sql, compiled.backend.name)) =
        some ("UPDATE users SET name = ? WHERE id = ?", "sqlite") := by
    decide +kernel
  rcases Session.compilesAlike_of_asksFor asksFor_loadedSession asksFor_shopSession isBound
      isUnbound areNamed sameRegistry with
    ⟨outcome, early, result, first, isOn, -, -, course⟩
  have goesOn : first.Course lateSession := by
    rw [show lateSession = first by rw [lateSession, isOn]]
    exact .start
  have late : lateSession.CompilesAtFirstUse 0 renameTarget outcome :=
    ((course lateSession goesOn).2 waits_lateSession).resolved userClass leads rfl (.inl hasBackend)
  have used := late
  rcases used with ⟨after, isUsed, -⟩
  rw [isUsed] at generated
  cases outcome with
  | error error => cases generated
  | ok compiled =>
      rcases Prod.ext_iff.1 (Option.some.inj generated) with ⟨sql, backend⟩
      exact ⟨compiled,
        ⟨asksFor_loadedSession, asksFor_shopSession, isBound, isUnbound, areNamed, sameRegistry⟩,
        early, by decide +kernel, late, sql, backend⟩

end SqlMapping
