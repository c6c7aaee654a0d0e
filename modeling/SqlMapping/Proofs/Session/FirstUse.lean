import SqlMapping.Proofs.Session.Holding

/-!
# The first use of a patch class

A patch class that has no statement yet is compiled when it is used.  The path of its entity is
followed, for which a module may be loaded, and what it leads to decides how the use goes on.

The main statements say what the first use gives and what it leaves, where the path leads to a
class, where it leads nowhere, and where the code of a module fails.
-/

namespace SqlMapping

namespace Session

/-- What following a dotted path gives, which may load a module. -/
def follow (session : Session) (path : String) : Loading (Option PathTarget) :=
  session.loader.importEntity session.workspace session.classes path

/-- A session with the classes and the notices that following a dotted path adds. -/
def afterFollowing (session : Session) (path : String) : Session :=
  { session with
    classes := (session.follow path).classes
    notices := session.notices ++ (session.follow path).notices }

end Session

namespace SessionAction

variable {α β : Type} {session : Session}

theorem on_bind_of_on
    {action : SessionAction α}
    {next : α → SessionAction β}
    {value : α}
    {after : Session}
    (isOn : action.on session = (.ok value, after)) :
    (action >>= next).on session = (next value).on after := by
  rw [on_bind, isOn]

theorem on_get : (get : SessionAction Session).on session = (.ok session, session) := rfl

theorem on_held
    {name : String}
    {object : Held}
    (isHeld : session.held.lookup name = some object) :
    (held name).on session = (.ok object, session) := by
  rw [held, on_bind_of_on on_get, named, isHeld]
  rfl

theorem on_patchClass
    {number : Nat}
    {patch : PatchClass}
    (isClass : session.classes.patch? number = some patch) :
    (patchClass number).on session = (.ok patch, session) := by
  rw [patchClass, on_bind_of_on on_get, isClass]
  rfl

theorem on_bind_of_error
    {action : SessionAction α}
    {next : α → SessionAction β}
    {failure : Failure}
    {after : Session}
    (isOn : action.on session = (.error failure, after)) :
    (action >>= next).on session = (.error failure, after) := by
  rw [on_bind, isOn]

theorem on_targetOf
    {patch : PatchClass}
    {target : PatchTarget}
    (isPatchTarget :
      (session.classes.patchLayers patch).findSome? PatchClass.target = some target) :
    (targetOf patch).on session = (.ok target, session) := by
  rw [targetOf, on_bind_of_on on_get, isPatchTarget]
  rfl

theorem on_ofReport (report : Report α) :
    (ofReport report).on session =
      (report.outcome.mapError .refused,
        { session with notices := session.notices ++ report.notices }) :=
  rfl

theorem on_importEntity (path : String) :
    (importEntity path).on session =
      ((session.follow path).outcome.mapError LoadFault.failure, session.afterFollowing path) :=
  rfl

section FirstUse

variable {number : Nat} {patch : PatchClass} {target : PatchTarget}
  (isPatch : session.classes.patch? number = some patch)
  (isTarget : (session.classes.patchLayers patch).findSome? PatchClass.target = some target)
  (isFirst : (session.classes.patchLayers patch).findSome? PatchClass.compiled = none)

include isPatch isTarget isFirst

/-- A use of a patch class that leads to a class compiles the patch with it. -/
theorem on_compiledPatch_of_found
    {found : PathTarget}
    (leads : (session.follow target.path).outcome = .ok (some found)) :
    (compiledPatch number).on session =
      (ofReport (Classes.compileDeclared session.workspace target.declaration found) >>=
        fun compiled =>
          modify (fun last => { last with
            classes := last.classes.setPatch number { patch with compiled := some compiled } }) >>=
              fun _ => pure compiled).on
        (session.afterFollowing target.path) := by
  have isOn := @on_importEntity session target.path
  rw [leads] at isOn
  rw [compiledPatch, on_bind_of_on on_get, on_bind_of_on (on_patchClass isPatch), isFirst]
  dsimp only
  rw [on_bind_of_on (on_targetOf isTarget), on_bind_of_on isOn]

/-- The statement of a first use is that of the declaration with what its path leads to. -/
theorem outcome_compileDeclared_of_on
    {found : PathTarget}
    {compiled : CompiledPatch}
    {later : Session}
    (leads : (session.follow target.path).outcome = .ok (some found))
    (isOn : (compiledPatch number).on session = (.ok compiled, later)) :
    (Classes.compileDeclared session.workspace target.declaration found).outcome =
      .ok compiled := by
  rw [on_compiledPatch_of_found isPatch isTarget isFirst leads, on_bind] at isOn
  cases isDeclared :
      (Classes.compileDeclared session.workspace target.declaration found).outcome with
  | error refusal =>
      rw [on_ofReport, isDeclared] at isOn
      cases congrArg Prod.fst isOn
  | ok own =>
      rw [on_ofReport, isDeclared] at isOn
      cases congrArg Prod.fst isOn
      rfl

/-- A use of a patch class that leads nowhere is refused. -/
theorem on_compiledPatch_of_nowhere
    (leadsNowhere : (session.follow target.path).outcome = .ok none) :
    (compiledPatch number).on session =
      (.error (.refused (.unresolvedPatchTarget target.path patch.name)),
        session.afterFollowing target.path) := by
  have isOn := @on_importEntity session target.path
  rw [leadsNowhere] at isOn
  rw [compiledPatch, on_bind_of_on on_get, on_bind_of_on (on_patchClass isPatch), isFirst]
  dsimp only
  rw [on_bind_of_on (on_targetOf isTarget), on_bind_of_on isOn]
  rfl

/-- A use of a patch class fails as the module does that is loaded for it. -/
theorem on_compiledPatch_of_fault
    {fault : LoadFault}
    (fails : (session.follow target.path).outcome = .error fault) :
    (compiledPatch number).on session =
      (.error fault.failure,
        session.afterFollowing target.path) := by
  have isOn := @on_importEntity session target.path
  rw [fails] at isOn
  rw [compiledPatch, on_bind_of_on on_get, on_bind_of_on (on_patchClass isPatch), isFirst]
  dsimp only
  rw [on_bind_of_on (on_targetOf isTarget), on_bind_of_error isOn]

end FirstUse

end SessionAction

end SqlMapping
