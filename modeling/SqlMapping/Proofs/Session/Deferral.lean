import SqlMapping.Proofs.Compilation.Patches
import SqlMapping.Proofs.Session.Targets

/-!
# Patches that wait for their entity

The dotted path of a patch class may lead nowhere yet when the class is defined.  The class then
waits, however the session goes on, and is compiled when it is first used, for which modules on the
path may be loaded.  Every use compiles it before anything else, so that nothing is executed unless
this succeeds.

The main statements say what the first use of a waiting class does, where its path leads somewhere,
where it leads nowhere and where the code of a module fails, and that nothing is executed before
that has succeeded.
-/

namespace SqlMapping

/--
A session that a run goes through after another one, between two operations or between what a unit
of work does and the operations in it.
-/
inductive Session.Course (first : Session) : Session → Prop where
  | start : Course first first
  | cleared
      {session : Session}
      (course : Course first session) :
      Course first { session with journal := [], notices := [] }
  | prepared
      {session : Session}
      (course : Course first session)
      (connection : String)
      (replies : Option (List Reply)) :
      Course first ((SessionAction.prepare connection replies).on session).2
  | performed
      {session : Session}
      (course : Course first session)
      (connection : String)
      (operation : Operation) :
      Course first ((SessionAction.perform connection operation).on session).2
  | acted
      {α : Type}
      {session : Session}
      (course : Course first session)
      (connection : String)
      (action : Database α) :
      Course first ((SessionAction.through connection action).on session).2

/-- A patch class as it was at some point of a run, but for the statement that it got since. -/
structure PatchClass.Continues (before after : PatchClass) : Prop where
  same : after = { before with compiled := after.compiled }
  compiled (statement : CompiledPatch) (isCompiled : before.compiled = some statement) :
    after.compiled = some statement

theorem PatchClass.Continues.refl (patch : PatchClass) : patch.Continues patch :=
  ⟨rfl, fun _ isCompiled => isCompiled⟩

theorem PatchClass.Continues.trans
    {first middle last : PatchClass}
    (before : first.Continues middle)
    (after : middle.Continues last) :
    first.Continues last := by
  refine ⟨?_, fun statement isCompiled => ?_⟩
  · rw [after.same, before.same]
  · exact after.compiled statement (before.compiled statement isCompiled)

namespace Classes

theorem patches_setNames
    {classes : Classes}
    (moduleName : String)
    (names : List (String × Thing)) :
    (classes.setNames moduleName names).patches = classes.patches := by
  rw [setNames]
  split_ifs
  · rfl
  · rfl

theorem patches_add
    {classes : Classes}
    (moduleName name : String)
    (isHidden : Bool)
    (entry : DefinedClass) :
    (classes.add moduleName name isHidden entry).patches = classes.patches := by
  cases isHidden with
  | true => rfl
  | false => exact patches_setNames _ _

end Classes

namespace Session

open SessionAction

variable {first session later : Session} {number : Nat} {target : PatchTarget}
  {compiled : CompiledPatch}

/-- A session has the backends of an earlier one, and its patch classes under their numbers. -/
structure Retains (before after : Session) : Prop where
  registry : after.workspace.registry = before.workspace.registry
  patches
      (number : Nat)
      (patch : PatchClass)
      (isPatch : before.classes.patch? number = some patch) :
      ∃ kept : PatchClass, after.classes.patch? number = some kept ∧ patch.Continues kept

theorem Retains.refl (session : Session) : session.Retains session :=
  ⟨rfl, fun _ patch isPatch => ⟨patch, isPatch, .refl patch⟩⟩

/-- Names in modules do not matter for what a session retains. -/
theorem Retains.of_patches
    {classes : Classes}
    (retains : first.Retains session)
    (same : classes.patches = session.classes.patches) :
    first.Retains { session with classes := classes } := by
  refine ⟨retains.registry, fun number patch isPatch => ?_⟩
  rcases retains.patches number patch isPatch with ⟨kept, isKept, continues⟩
  refine ⟨kept, ?_, continues⟩
  rw [Classes.patch?, same]
  exact isKept

/-- Patch classes are added behind those there are, and change by getting their statement only. -/
theorem isLasting_retains (first : Session) : IsLasting first.Retains where
  ofCatalogue {before after} retains same := by
    have sameClasses : after.classes = before.classes := congrArg Catalogue.classes same
    have sameRegistry : after.workspace.registry = before.workspace.registry :=
      congrArg Catalogue.registry same
    refine ⟨sameRegistry.trans retains.registry, ?_⟩
    rw [sameClasses]
    exact retains.patches
  tableAdded _ _ retains _ := retains.of_patches (Classes.patches_add _ _ _ _)
  patchAdded {session} added retains := by
    refine ⟨retains.registry, fun number patch isPatch => ?_⟩
    rcases retains.patches number patch isPatch with ⟨kept, isKept, continues⟩
    have inside : number < session.classes.patches.length :=
      (List.getElem?_eq_some_iff.1 isKept).1
    exact ⟨kept, (List.getElem?_append_left inside).trans isKept, continues⟩
  patchPublished _ _ _ _ retains := retains.of_patches (Classes.patches_add _ _ _ _)
  loaded {session} name retains := by
    refine ⟨retains.registry, fun number patch isPatch => ?_⟩
    rcases retains.patches number patch isPatch with ⟨kept, isKept, continues⟩
    have extended := session.loader.isExtended session.workspace session.classes name
    exact ⟨kept, patch?_of_isExtendedBy extended isKept, continues⟩
  unbound _ _ retains := retains.of_patches (Classes.patches_setNames _ _)
  patchCompiled {session other patch} compiled retains isCompiled isFirst := by
    refine ⟨retains.registry, fun number before isPatch => ?_⟩
    rcases retains.patches number before isPatch with ⟨kept, isKept, continues⟩
    by_cases same : other = number
    · subst same
      cases Option.some.inj (isCompiled.symm.trans isKept)
      refine ⟨{ patch with compiled := some compiled }, ?_, continues.trans ⟨rfl, ?_⟩⟩
      · exact List.getElem?_set_self (List.getElem?_eq_some_iff.1 isKept).1
      · intro statement impossible
        rw [isFirst] at impossible
        cases impossible
    · exact ⟨kept, (List.getElem?_set_ne same).trans isKept, continues⟩

/-- Binding a name to a class changes no patch class. -/
theorem preserves_bind_retains (moduleName name object : String) :
    Preserves first.Retains (SessionAction.bind moduleName name object) := by
  have lasts := isLasting_retains first
  refine ((keeps_namesOf moduleName).preserves lasts).bind fun names => ?_
  refine ((keeps_held object).preserves lasts).bind fun found => ?_
  cases found with
  | definedClass identity =>
      refine ((keeps_definedClass identity).preserves lasts).bind fun entry => ?_
      exact fun session retains => retains.of_patches (Classes.patches_setNames _ _)
  | _ => exact (keeps_throw _).preserves lasts

/-- A session has its patch classes and its backends through the whole course of a run. -/
theorem Course.retains (course : first.Course later) : first.Retains later := by
  have lasts := isLasting_retains first
  induction course with
  | start => exact .refl first
  | cleared _ inductionHypothesis => exact lasts.ofCatalogue inductionHypothesis rfl
  | prepared _ connection replies inductionHypothesis =>
      exact (preserves_prepare lasts connection replies).snd inductionHypothesis
  | performed _ connection operation inductionHypothesis =>
      refine (preserves_perform lasts connection operation ?_).snd inductionHypothesis
      exact fun moduleName name object _ => preserves_bind_retains moduleName name object
  | acted _ connection action inductionHypothesis =>
      exact (preserves_through lasts connection action).snd inductionHypothesis

/-- The course of a run goes on with any further steps. -/
theorem Course.step (course : first.Course session) (next : Step) :
    first.Course (session.step next).2 := by
  have preserves : Preserves first.Course (run next) :=
    preserves_run
      (fun connection replies =>
        preserves_of_snd fun _ here => here.prepared connection replies)
      (fun connection action =>
        preserves_of_snd fun _ here => here.acted connection action)
      next
      (fun connection performed _ =>
        preserves_of_snd fun _ here => here.performed connection performed)
  exact preserves.snd course.cleared

/-! ## Patch classes that wait -/

/-- A patch class that extends no other is not compiled yet. -/
def Waits (session : Session) (number : Nat) (target : PatchTarget) : Prop :=
  ∃ patch : PatchClass,
    session.classes.patch? number = some patch ∧
      patch.name = target.declaration.name ∧
        patch.extended = [] ∧ patch.target = some target ∧ patch.compiled = none

/-- A patch class has a statement of its own. -/
def HasCompiled (session : Session) (number : Nat) (compiled : CompiledPatch) : Prop :=
  ∃ patch : PatchClass,
    session.classes.patch? number = some patch ∧ patch.compiled = some compiled

/-- A patch class has a statement, which its uses find however the session goes on. -/
structure Settles (session : Session) (number : Nat) (compiled : CompiledPatch) : Prop where
  has : session.HasCompiled number compiled
  finds (later : Session) (course : session.Course later) :
    (compiledPatch number).on later = (.ok compiled, later)

theorem Retains.hasCompiled
    (retains : first.Retains later)
    (has : first.HasCompiled number compiled) :
    later.HasCompiled number compiled := by
  rcases has with ⟨patch, isPatch, isCompiled⟩
  rcases retains.patches number patch isPatch with ⟨kept, isKept, continues⟩
  exact ⟨kept, isKept, continues.compiled compiled isCompiled⟩

/-- A patch class that waits keeps waiting until it is compiled. -/
theorem Retains.waits_or_hasCompiled
    (retains : first.Retains later)
    (waits : first.Waits number target) :
    later.Waits number target ∨ ∃ compiled, later.HasCompiled number compiled := by
  rcases waits with ⟨patch, isPatch, name, extended, isTarget, -⟩
  rcases retains.patches number patch isPatch with ⟨kept, isKept, continues⟩
  cases isCompiled : kept.compiled with
  | none =>
      rw [continues.same] at isKept isCompiled
      exact .inl ⟨_, isKept, name, extended, isTarget, isCompiled⟩
  | some compiled => exact .inr ⟨compiled, kept, isKept, isCompiled⟩

theorem HasCompiled.settles (has : session.HasCompiled number compiled) :
    session.Settles number compiled := by
  refine ⟨has, fun later course => ?_⟩
  rcases course.retains.hasCompiled has with ⟨patch, isPatch, isCompiled⟩
  rw [compiledPatch, on_bind_of_on on_get, on_bind_of_on (on_patchClass isPatch),
    Classes.patchLayers, List.findSome?_cons, isCompiled]
  rfl

theorem Waits.exists_patch (waits : session.Waits number target) :
    ∃ patch : PatchClass,
      session.classes.patch? number = some patch ∧
        patch.name = target.declaration.name ∧
        (session.classes.patchLayers patch).findSome? PatchClass.target = some target ∧
        (session.classes.patchLayers patch).findSome? PatchClass.compiled = none := by
  rcases waits with ⟨patch, isPatch, name, extended, isTarget, isFirst⟩
  have layers : session.classes.patchLayers patch = [patch] := by
    rw [Classes.patchLayers, extended]
    rfl
  refine ⟨patch, isPatch, name, ?_, ?_⟩
  · rw [layers, List.findSome?_cons, isTarget]
  · rw [layers, List.findSome?_cons, isFirst]
    rfl

/-- The first use of a patch class compiles it, or refuses its declaration and leaves it waiting. -/
def CompilesAtFirstUse
    (session : Session)
    (number : Nat)
    (target : PatchTarget)
    (outcome : Except BuildError CompiledPatch) :
    Prop :=
  ∃ after : Session,
    (compiledPatch number).on session = (outcome.mapError .refused, after) ∧
      match outcome with
      | .ok compiled => after.Settles number compiled
      | .error _ => after.Waits number target

/-- A patch class waits for its entity whatever modules are loaded. -/
theorem Waits.afterFollowing
    (waits : session.Waits number target)
    (path : String) :
    (session.afterFollowing path).Waits number target := by
  rcases waits with ⟨patch, isPatch, waits⟩
  exact ⟨patch, patch?_of_isExtendedBy (Loader.isExtendedBy_importEntity path) isPatch, waits⟩

/-- A patch class is compiled with what its path leads to when it is first used. -/
theorem Waits.compilesAtFirstUse
    {found : PathTarget}
    (waits : session.Waits number target)
    (leads : (session.follow target.path).outcome = .ok (some found)) :
    session.CompilesAtFirstUse number target
      (Classes.compileDeclared session.workspace target.declaration found).outcome := by
  rcases waits.exists_patch with ⟨patch, isPatch, -, isTarget, isFirst⟩
  have waitsAfter := waits.afterFollowing target.path
  have isPatchAfter :=
    patch?_of_isExtendedBy
      (@Loader.isExtendedBy_importEntity session.loader session.workspace _ target.path) isPatch
  rw [CompilesAtFirstUse, on_compiledPatch_of_found isPatch isTarget isFirst leads]
  generalize Classes.compileDeclared session.workspace target.declaration found = report
  rcases report with ⟨notices, outcome⟩
  cases outcome with
  | error error => exact ⟨_, rfl, waitsAfter⟩
  | ok compiled =>
      refine ⟨_, rfl, HasCompiled.settles ⟨{ patch with compiled := some compiled }, ?_, rfl⟩⟩
      exact List.getElem?_set_self (List.getElem?_eq_some_iff.1 isPatchAfter).1

/-- While the path of a patch class leads nowhere, a use is refused. -/
theorem Waits.on_compiledPatch_of_nowhere
    (waits : session.Waits number target)
    (leadsNowhere : (session.follow target.path).outcome = .ok none) :
    (compiledPatch number).on session =
      (.error (.refused (.unresolvedPatchTarget target.path target.declaration.name)),
        session.afterFollowing target.path) := by
  rcases waits.exists_patch with ⟨patch, isPatch, name, isTarget, isFirst⟩
  rw [SessionAction.on_compiledPatch_of_nowhere isPatch isTarget isFirst leadsNowhere, name]

/-- A use fails as the code of a module does that is loaded for it. -/
theorem Waits.on_compiledPatch_of_fault
    {fault : LoadFault}
    (waits : session.Waits number target)
    (fails : (session.follow target.path).outcome = .error fault) :
    (compiledPatch number).on session =
      (.error fault.failure, session.afterFollowing target.path) := by
  rcases waits.exists_patch with ⟨patch, isPatch, -, isTarget, isFirst⟩
  exact SessionAction.on_compiledPatch_of_fault isPatch isTarget isFirst fails

/-- A patch class that a use has compiled has its statement from then on. -/
theorem Waits.settles_of_on
    {after : Session}
    (waits : session.Waits number target)
    (isOn : (compiledPatch number).on session = (.ok compiled, after)) :
    after.Settles number compiled := by
  cases leads : (session.follow target.path).outcome with
  | error fault =>
      rw [waits.on_compiledPatch_of_fault leads] at isOn
      cases isOn
  | ok found? =>
      cases found? with
      | none =>
          rw [waits.on_compiledPatch_of_nowhere leads] at isOn
          cases isOn
      | some found =>
          rcases waits.compilesAtFirstUse leads with ⟨last, first, ends⟩
          rw [isOn] at first
          generalize (Classes.compileDeclared session.workspace target.declaration
            found).outcome = outcome at first ends
          cases outcome with
          | error error => cases first
          | ok statement =>
              cases first
              exact ends

end Session

/-! ## Uses -/

namespace SessionAction

variable {session : Session}

/-- A field that hides a member keeps it from being called, and changes nothing. -/
theorem on_refuseField_or (object : Held) (member : String) :
    (object.fields.lookup member = none ∧
        (refuseField object member).on session = (.ok (), session)) ∨
      (object.fields.lookup member ≠ none ∧
        ∃ failure, (refuseField object member).on session = (.error failure, session)) := by
  rw [refuseField]
  cases found : object.fields.lookup member with
  | none => exact .inl ⟨rfl, rfl⟩
  | some value => exact .inr ⟨Option.some_ne_none value, _, rfl⟩

theorem on_patchFor_or
    {name : String}
    {row : PatchRow}
    (isHeld : session.held.lookup name = some (.patch row))
    (member : String)
    (arguments : List String) :
    (row.fields.lookup member = none ∧
        (patchFor member arguments name).on session = (.ok row, session)) ∨
      (row.fields.lookup member ≠ none ∧
        ∃ failure, (patchFor member arguments name).on session = (.error failure, session)) := by
  rw [patchFor, on_bind_of_on (on_held isHeld)]
  rcases on_refuseField_or (.patch row) member with ⟨isFree, isOn⟩ | ⟨isHidden, failure, isOn⟩
  · rw [on_bind_of_on isOn]
    exact .inl ⟨isFree, rfl⟩
  · rw [on_bind_of_error isOn]
    exact .inr ⟨isHidden, failure, rfl⟩

end SessionAction

namespace Session

open SessionAction

variable {session : Session} {number : Nat} {target : PatchTarget}

/-- An operation is about a patch class, or about a patch of the class, and uses its statement. -/
inductive Uses (session : Session) (number : Nat) : Operation → Prop where
  | compiled
      {name : String}
      {given : Held}
      (isHeld : session.held.lookup name = some given)
      (isNumber : (patchNumber "compiled" given).on session = (.ok number, session)) :
      Uses session number (.compiled name)
  | patchRow
      {name : String}
      {row : PatchRow}
      (isHeld : session.held.lookup name = some (.patch row))
      (isNumber : row.patch = number)
      (identifier : Value) :
      Uses session number (.patchRow name identifier)
  | applyPatch
      {name : String}
      {row : PatchRow}
      (isHeld : session.held.lookup name = some (.patch row))
      (isNumber : row.patch = number)
      (object : String) :
      Uses session number (.applyPatch name object)
  | patch
      {name object : String}
      {row : PatchRow}
      {entity : Entity}
      (isHeld : session.held.lookup name = some (.patch row))
      (isNumber : row.patch = number)
      (isEntity : session.held.lookup object = some (.entity entity)) :
      Uses session number (.patch object name)

/--
Nothing stands between an operation and the patch that it uses: no field hides the member that is
called, what the patch is applied to is there, and the patch belongs to the entity that is patched.
-/
def Reaches (session : Session) : Operation → Prop
  | .compiled name =>
    ∀ given, session.held.lookup name = some given → given.fields.lookup "compiled" = none
  | .patchRow name _ =>
    ∀ given, session.held.lookup name = some given → given.fields.lookup "patch_row" = none
  | .applyPatch name object =>
    (∀ given, session.held.lookup name = some given → given.fields.lookup "apply_to" = none) ∧
      (session.held.lookup object).isSome = true
  | .patch object name =>
    ∀ entity row,
      session.held.lookup object = some (.entity entity) →
        session.held.lookup name = some (.patch row) →
          entity.fields.lookup "patch" = none ∧
            row.fields.lookup "targets" = none ∧ session.Targets row entity
  | _ => False

/--
An operation fails before it reaches the patch that it uses, or compiles the patch and goes on with
the statement.
-/
def CompilesBeforehand
    (session : Session)
    (number : Nat)
    (connection : String)
    (operation : Operation) :
    Prop :=
  (¬session.Reaches operation ∧
      ∃ failure, (perform connection operation).on session = (.error failure, session)) ∨
    ∃ rest : CompiledPatch → SessionAction StepResult,
      (∀ compiled, Keeps Session.catalogue (rest compiled)) ∧
        (perform connection operation).on session = (compiledPatch number >>= rest).on session

/-- Patching an entity checks that the patch belongs to it and then compiles the patch. -/
theorem Waits.compilesBeforehand_patch
    {name object : String}
    {row : PatchRow}
    {entity : Entity}
    (waits : session.Waits row.patch target)
    (isHeld : session.held.lookup name = some (.patch row))
    (isEntity : session.held.lookup object = some (.entity entity))
    (connection : String) :
    session.CompilesBeforehand row.patch connection (.patch object name) := by
  rw [CompilesBeforehand, perform, on_bind_of_on (on_held isEntity)]
  rcases on_refuseField_or (.entity entity) "patch" with
    ⟨isFree, isOn⟩ | ⟨isHidden, failure, isOn⟩
  swap
  · rw [on_bind_of_error isOn]
    exact .inl
      ⟨fun reaches => isHidden (reaches entity row isEntity isHeld).1, failure, rfl⟩
  rw [on_bind_of_on isOn]
  dsimp only
  rw [patchEntity, bind_assoc, on_bind_of_on (on_held isHeld), bind_assoc]
  rcases on_refuseField_or (.patch row) "targets" with
    ⟨isFree, isOn⟩ | ⟨isHidden, failure, isOn⟩
  swap
  · rw [on_bind_of_error isOn]
    exact .inl
      ⟨fun reaches => isHidden (reaches entity row isEntity isHeld).2.1, failure, rfl⟩
  rw [on_bind_of_on isOn]
  rcases waits.exists_patch with ⟨patch, isPatch, -, isTarget, -⟩
  have isNumber : (patchNumber "targets" (.patch row)).on session = (.ok row.patch, session) :=
    rfl
  rw [bind_assoc, on_bind_of_on on_get, bind_assoc, on_bind_of_on isNumber, bind_assoc,
    on_bind_of_on (on_patchClass isPatch), bind_assoc, on_bind_of_on (on_isTarget isTarget _)]
  by_cases belongs :
      (entity.table.paths ++ session.classes.rootPaths).contains target.path = true
  · rw [if_pos belongs]
    dsimp only
    rw [bind_assoc]
    refine .inr ⟨_, fun compiled => ?_, rfl⟩
    refine Keeps.bind ?_ fun _ => keeps_pure _
    refine (keeps_through ignoresConnections_catalogue _ _).bind fun applied => ?_
    exact keeps_holdApplied _ _ _ _ applied
  · rw [if_neg belongs]
    refine .inl ⟨fun reaches => ?_, _, rfl⟩
    rcases (reaches entity row isEntity isHeld).2.2 with
      ⟨other, otherTarget, isOther, isOtherTarget, member⟩
    cases Option.some.inj (isPatch.symm.trans isOther)
    cases Option.some.inj (isTarget.symm.trans isOtherTarget)
    exact belongs (List.contains_iff_mem.2 member)

/-- Every use of a patch compiles it before anything else. -/
theorem Uses.compilesBeforehand
    {operation : Operation}
    (uses : session.Uses number operation)
    (waits : session.Waits number target)
    (connection : String) :
    session.CompilesBeforehand number connection operation := by
  cases uses with
  | @compiled name given isHeld isNumber =>
      rw [CompilesBeforehand, perform, on_bind_of_on (on_held isHeld)]
      rcases on_refuseField_or given "compiled" with ⟨isFree, isOn⟩ | ⟨isHidden, failure, isOn⟩
      · rw [on_bind_of_on isOn, on_bind_of_on isNumber]
        exact .inr ⟨fun compiled => pure (.statement compiled.plan.statement),
          fun _ => keeps_pure _, rfl⟩
      · rw [on_bind_of_error isOn]
        exact .inl ⟨fun reaches => isHidden (reaches given isHeld), failure, rfl⟩
  | @patchRow name row isHeld isNumber identifier =>
      subst isNumber
      rw [CompilesBeforehand, perform]
      rcases on_patchFor_or isHeld "patch_row" ["handle", "id"] with
        ⟨isFree, isOn⟩ | ⟨isHidden, failure, isOn⟩
      · rw [on_bind_of_on isOn]
        refine .inr ⟨_, fun compiled => ?_, rfl⟩
        exact (keeps_through ignoresConnections_catalogue _ _).bind fun _ => keeps_pure _
      · rw [on_bind_of_error isOn]
        exact .inl ⟨fun reaches => isHidden (reaches _ isHeld), failure, rfl⟩
  | @applyPatch name row isHeld isNumber object =>
      subst isNumber
      rw [CompilesBeforehand, perform]
      rcases on_patchFor_or isHeld "apply_to" ["entity"] with
        ⟨isFree, isOn⟩ | ⟨isHidden, failure, isOn⟩
      · rw [on_bind_of_on isOn]
        cases isThere : session.held.lookup object with
        | none =>
            have missing :
                (SessionAction.held object).on session =
                  (.error (.unknownName object), session) := by
              rw [SessionAction.held, on_bind_of_on on_get, named, isThere]
              rfl
            rw [on_bind_of_error missing]
            refine .inl ⟨fun reaches => ?_, _, rfl⟩
            have isSome := reaches.2
            rw [isThere] at isSome
            cases isSome
        | some applied =>
            rw [on_bind_of_on (on_held isThere)]
            refine .inr ⟨_, fun compiled => ?_, rfl⟩
            exact (keeps_holdApplied _ _ _ _ _).bind fun _ => keeps_pure _
      · rw [on_bind_of_error isOn]
        exact .inl ⟨fun reaches => isHidden (reaches.1 _ isHeld), failure, rfl⟩
  | patch isHeld isNumber isEntity =>
      subst isNumber
      exact waits.compilesBeforehand_patch isHeld isEntity connection

/--
A use of a patch class executes nothing and changes no entity before the class is compiled: it
fails if that fails, and otherwise goes on with the statement.
-/
structure CompilesBeforeUse
    (session : Session)
    (number : Nat)
    (connection : String)
    (operation : Operation) :
    Prop where
  refused
      (failure : Failure)
      (after : Session)
      (isOn : (compiledPatch number).on session = (.error failure, after)) :
      ∃ (reported : Failure) (last : Session),
        (perform connection operation).on session = (.error reported, last) ∧
          last.journal = session.journal ∧
            last.connections = session.connections ∧
              last.held = session.held ∧ (session.Reaches operation → reported = failure)
  compiled
      (statement : CompiledPatch)
      (later : Session)
      (isOn : (compiledPatch number).on session = (.ok statement, later))
      (reaches : session.Reaches operation) :
      later.journal = session.journal ∧
        later.connections = session.connections ∧
          ∃ rest : SessionAction StepResult,
            (perform connection operation).on session = rest.on later ∧
              (rest.on later).2.Settles number statement

/-- Every use of a patch class that waits compiles it before anything is executed. -/
theorem Uses.compilesBeforeUse
    {operation : Operation}
    (uses : session.Uses number operation)
    (waits : session.Waits number target)
    (connection : String) :
    session.CompilesBeforeUse number connection operation := by
  have looksOn :
      Keeps (fun session => (session.journal, session.connections, session.held))
        (compiledPatch number) :=
    keeps_compiledPatch_of (fun _ _ => rfl) (fun _ _ => rfl) number
  have objects := looksOn session
  rcases uses.compilesBeforehand waits connection with
    ⟨isStopped, failure, stops⟩ | ⟨rest, keeps, goesOn⟩
  · constructor
    case refused =>
      intro _ _ _
      exact ⟨failure, session, stops, rfl, rfl, rfl, fun reaches => absurd reaches isStopped⟩
    case compiled =>
      intro statement later _ reaches
      exact absurd reaches isStopped
  · constructor
    case refused =>
      intro failure after isOn
      rw [on_bind_of_error isOn] at goesOn
      rw [isOn, Prod.mk.injEq, Prod.mk.injEq] at objects
      exact ⟨failure, after, goesOn, objects.1, objects.2.1, objects.2.2, fun _ => rfl⟩
    case compiled =>
      intro statement later isOn _
      rw [on_bind_of_on isOn] at goesOn
      rw [isOn, Prod.mk.injEq, Prod.mk.injEq] at objects
      refine ⟨objects.1, objects.2.1, rest statement, goesOn, HasCompiled.settles ?_⟩
      have sameClasses : ((rest statement).on later).2.classes = later.classes :=
        congrArg Catalogue.classes (keeps statement later)
      rw [HasCompiled, sameClasses]
      exact (waits.settles_of_on isOn).has

end Session

end SqlMapping
