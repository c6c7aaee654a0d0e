import SqlMapping.Proofs.Session.Lasting

/-!
# Where classes of a session lie

A class that is defined in a module is reached there under the name that it was defined with.  Other
names can lead to it too, if they are bound to it, and then its path is not that of the name.  What
is held, compiled, executed or configured leaves every class where it lies, and so do definitions.

The main statement says that if no name is bound to a class otherwise, neither by the session nor by
the modules that it loads, every table class that is reached under a name has the path of that name.
-/

namespace SqlMapping

namespace Classes

variable {classes : Classes} {moduleName : String}

/-- Every table class that a name in a module leads to has the path of the module and the name. -/
def IsLaidOut (classes : Classes) : Prop :=
  ∀ (moduleName : String), ∀ entry ∈ classes.namesIn moduleName, ∀ table : TableClass,
    entry.2 = .defined (.table table) → table.own.path = moduleName ++ "." ++ entry.1

/-- The names in one loaded module can be other ones, and those in all other modules stay. -/
theorem namesIn_setNames_or
    (names : List (String × Thing))
    (other : String) :
    ((classes.setNames moduleName names).namesIn other = names ∧ other = moduleName) ∨
      (classes.setNames moduleName names).namesIn other = classes.namesIn other := by
  rw [setNames]
  split_ifs
  · by_cases same : other = moduleName
    · subst same
      left
      rw [namesIn, Entries.lookup_put_self]
      exact ⟨rfl, rfl⟩
    · right
      rw [namesIn, Entries.lookup_put_of_ne same]
      rfl
  · exact .inr rfl

theorem IsLaidOut.setNames
    {names : List (String × Thing)}
    (isLaidOut : classes.IsLaidOut)
    (lies :
      ∀ entry ∈ names, ∀ table : TableClass,
        entry.2 = .defined (.table table) → table.own.path = moduleName ++ "." ++ entry.1) :
    (classes.setNames moduleName names).IsLaidOut := by
  intro other entry member table leads
  rcases @namesIn_setNames_or classes moduleName names other with ⟨changed, rfl⟩ | kept
  · rw [changed] at member
    exact lies entry member table leads
  · rw [kept] at member
    exact isLaidOut other entry member table leads

/-- A class that is added under its own name lies under it. -/
theorem IsLaidOut.added
    {name : String}
    {entry : DefinedClass}
    (isLaidOut : classes.IsLaidOut)
    (isHidden : Bool)
    (lies :
      ∀ table : TableClass,
        entry = .table table → isHidden = false → table.own.path = moduleName ++ "." ++ name) :
    (classes.add moduleName name isHidden entry).IsLaidOut := by
  cases isHidden with
  | true => exact isLaidOut
  | false =>
      let added : Classes := { classes with defined := classes.defined ++ [entry] }
      have addedLaidOut : added.IsLaidOut := isLaidOut
      refine addedLaidOut.setNames fun named member table leads => ?_
      rcases Entries.mem_of_mem_put member with isOld | isNew
      · exact isLaidOut moduleName named isOld table leads
      · subst isNew
        cases leads
        exact lies table rfl rfl

theorem IsLaidOut.unbound
    (isLaidOut : classes.IsLaidOut)
    (moduleName name : String) :
    (classes.unbind moduleName name).IsLaidOut :=
  isLaidOut.setNames fun entry member =>
    isLaidOut moduleName entry (List.mem_of_mem_filter member)

end Classes

/-- The code of modules binds the names in them to table classes of their paths only. -/
def Loader.LaysOut (loader : Loader) : Prop :=
  ∀ (workspace : Workspace) (classes : Classes) (name : String),
    classes.IsLaidOut → (loader.load workspace classes name).classes.IsLaidOut

namespace Session

/-- Every class of a session lies where its path says, and does so once modules are loaded. -/
structure IsLaidOut (session : Session) : Prop where
  classes : session.classes.IsLaidOut
  loader : session.loader.LaysOut

theorem isLasting_isLaidOut : IsLasting IsLaidOut where
  ofCatalogue {before after} isLaidOut same := by
    constructor
    · rw [show after.classes = before.classes from congrArg Catalogue.classes same]
      exact isLaidOut.classes
    · rw [show after.loader = before.loader from congrArg Catalogue.loader same]
      exact isLaidOut.loader
  tableAdded moduleName isHidden isLaidOut lies := by
    refine ⟨isLaidOut.classes.added isHidden ?_, isLaidOut.loader⟩
    rintro _ ⟨⟩ isPublished
    exact lies isPublished
  patchAdded _ isLaidOut := ⟨isLaidOut.classes, isLaidOut.loader⟩
  patchPublished moduleName name isHidden number isLaidOut := by
    refine ⟨isLaidOut.classes.added isHidden ?_, isLaidOut.loader⟩
    intro table impossible
    cases impossible
  patchCompiled _ isLaidOut _ _ := ⟨isLaidOut.classes, isLaidOut.loader⟩
  loaded {session} name isLaidOut :=
    ⟨isLaidOut.loader session.workspace session.classes name isLaidOut.classes, isLaidOut.loader⟩
  unbound moduleName name isLaidOut :=
    ⟨isLaidOut.classes.unbound moduleName name, isLaidOut.loader⟩

end Session

/-- Whether an operation lets a name in a module lead to a class that is there already. -/
def Operation.bindsName : Operation → Bool
  | .bind _ _ _ => true
  | _ => false

/--
A session in the course of a run that began with classes that lie where their paths say and has
bound no further names to them, between two operations or between what a unit of work does and the
operations in it.
-/
inductive Session.Reached : Session → Prop where
  | start
      {session : Session}
      (isLaidOut : session.IsLaidOut) :
      Reached session
  | cleared
      {session : Session}
      (isReached : Reached session) :
      Reached { session with journal := [], notices := [] }
  | prepared
      {session : Session}
      (isReached : Reached session)
      (connection : String)
      (replies : Option (List Reply)) :
      Reached ((SessionAction.prepare connection replies).on session).2
  | performed
      {session : Session}
      (isReached : Reached session)
      (connection : String)
      (operation : Operation)
      (bindsNone : operation.bindsName = false) :
      Reached ((SessionAction.perform connection operation).on session).2
  | acted
      {α : Type}
      {session : Session}
      (isReached : Reached session)
      (connection : String)
      (action : Database α) :
      Reached ((SessionAction.through connection action).on session).2

namespace SessionAction

variable {α : Type}

theorem reached_prepare (connection : String) (replies : Option (List Reply)) :
    Preserves Session.Reached (prepare connection replies) :=
  preserves_of_snd fun _ isReached => isReached.prepared connection replies

theorem reached_through (connection : String) (action : Database α) :
    Preserves Session.Reached (through connection action) :=
  preserves_of_snd fun _ isReached => isReached.acted connection action

/-- A step of a run goes on with the run, if no operation in it binds a name to a class. -/
theorem reached_run
    (step : Step)
    (bindNone : ∀ operation ∈ step.operations, operation.bindsName = false) :
    Preserves Session.Reached (run step) :=
  preserves_run reached_prepare reached_through step fun connection performed member =>
    preserves_of_snd fun _ isReached =>
      isReached.performed connection performed (bindNone performed member)

end SessionAction

namespace Session

/-- A session is still in the course of a run after any further steps that bind no names. -/
theorem Reached.step
    {session : Session}
    (isReached : session.Reached)
    (next : Step)
    (bindNone : ∀ operation ∈ next.operations, operation.bindsName = false) :
    (session.step next).2.Reached :=
  (SessionAction.reached_run next bindNone).snd isReached.cleared

/-- However a session was run, every table class reached under a name has the path of the name. -/
theorem Reached.isLaidOut
    {session : Session}
    (isReached : session.Reached) :
    session.IsLaidOut := by
  induction isReached with
  | start isLaidOut => exact isLaidOut
  | cleared _ inductionHypothesis =>
      exact ⟨inductionHypothesis.classes, inductionHypothesis.loader⟩
  | prepared _ connection replies inductionHypothesis =>
      exact
        (SessionAction.preserves_prepare isLasting_isLaidOut connection replies).snd
          inductionHypothesis
  | performed _ connection operation bindsNone inductionHypothesis =>
      refine
        (SessionAction.preserves_perform isLasting_isLaidOut connection operation ?_).snd
          inductionHypothesis
      rintro moduleName name object rfl
      cases bindsNone
  | acted _ connection action inductionHypothesis =>
      exact
        (SessionAction.preserves_through isLasting_isLaidOut connection action).snd
          inductionHypothesis

end Session

end SqlMapping
