import SqlMapping.Backend
import SqlMapping.Error
import SqlMapping.Settings

/-!
# The backend registry

Backends are registered under keys.  A declaration or a query names a backend by its key,
brings one of its own, or leaves the choice to the settings; the key of a backend and the name
that it gives itself may differ.
-/

namespace SqlMapping

/-- Registered backends under their keys, in order of registration. -/
structure Registry where
  entries : List (String × Backend)

/-- How a backend is chosen. -/
inductive BackendChoice where
  /-- The backend that the settings name. -/
  | configured
  /-- The backend registered under a key. -/
  | registered (key : String)
  /-- A backend that is given as such. -/
  | given (backend : Backend)

/-- The choice that an optional key makes. -/
def BackendChoice.ofKey? : Option String → BackendChoice
  | some key => .registered key
  | none => .configured

namespace Registry

/-- The three backends that are always registered. -/
def standard : Registry :=
  ⟨[("postgres", .postgres), ("sqlite", .sqlite), ("mysql", .mysql)]⟩

/-- The backend registered under a key. -/
def find? (registry : Registry) (key : String) : Option Backend :=
  registry.entries.lookup key

/-- Register a backend under a key; a backend registered before under it is replaced. -/
def register (registry : Registry) (key : String) (backend : Backend) : Registry :=
  ⟨registry.entries.filter (fun entry => entry.1 ≠ key) ++ [(key, backend)]⟩

/-- Insert a text into a sorted list. -/
def insertSorted (text : String) : List String → List String
  | [] => [text]
  | first :: rest =>
    if text ≤ first then text :: first :: rest else first :: insertSorted text rest

/-- Sort texts by their code points. -/
def sortTexts (texts : List String) : List String :=
  texts.foldr insertSorted []

/-- The keys of all registered backends, sorted. -/
def keys (registry : Registry) : List String :=
  sortTexts (registry.entries.map Prod.fst)

/-- The backend under a key, or a refusal that lists the keys there are. -/
def create (registry : Registry) (key : String) : Except BuildError Backend :=
  match registry.find? key with
  | some backend => .ok backend
  | none => .error (.compilation (.unsupportedBackend key registry.keys))

/-- The backend that a choice stands for. -/
def resolve (registry : Registry) (settings : Settings) :
    BackendChoice → Except BuildError Backend
  | .configured => registry.create settings.defaultBackend
  | .registered key => registry.create key
  | .given backend => .ok backend

@[simp]
theorem resolve_given (registry : Registry) (settings : Settings) (backend : Backend) :
    registry.resolve settings (.given backend) = .ok backend := rfl

/-- What was registered last under a key is found under it. -/
@[simp]
theorem find?_register_self (registry : Registry) (key : String) (backend : Backend) :
    (registry.register key backend).find? key = some backend := by
  unfold register find?
  induction registry.entries with
  | nil => simp
  | cons entry rest inductionHypothesis =>
      by_cases equality : entry.1 = key
      · simpa [equality] using inductionHypothesis
      · have different : ¬ key = entry.1 := fun same => equality same.symm
        obtain ⟨other, value⟩ := entry
        simp only [List.filter_cons, ne_eq, equality, not_false_eq_true, decide_true, if_true]
        rw [List.cons_append, List.lookup_cons]
        have unequal : (key == other) = false := by simpa using different
        simpa [unequal] using inductionHypothesis

end Registry

/-- What compilation consults: the settings and the registered backends. -/
structure Workspace where
  settings : Settings
  registry : Registry

namespace Workspace

/-- The default settings and the standard backends. -/
def standard : Workspace := ⟨{}, .standard⟩

/-- The backend that a choice stands for. -/
def resolve (workspace : Workspace) (choice : BackendChoice) : Except BuildError Backend :=
  workspace.registry.resolve workspace.settings choice

end Workspace

end SqlMapping
