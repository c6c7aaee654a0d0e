import SqlMapping.Proofs.Session.Patching
import SqlMapping.Proofs.Session.Paths

/-!
# What patch classes belong to

The dotted path of a patch class is followed to a class, whose schema the patch is compiled with.
Whether the patch class belongs to a class is told by the path itself, which has to be that of the
class or of one that it extends.

The main statement says when a patch class belongs to the class that its path leads to, and that it
always does if the path is made of a module and a name in it, and no name is bound to a class but
its own.
-/

namespace SqlMapping

/-- A failure that is not the refusal of a patch of another class. -/
def Failure.IsOther (failure : Failure) : Prop :=
  ∀ patch entity : String, failure ≠ .mismatch (.unrelatedPatch patch entity)

namespace Database

variable {α β : Type} {allowed : Failure → Prop}

/-- Whatever the connection answers, an action fails only in allowed ways. -/
def FailsWithin (allowed : Failure → Prop) (action : Database α) : Prop :=
  ∀ (connection : Connection) (failure : Failure),
    (action.on connection).1 = .error failure → allowed failure

theorem failsWithin_pure (value : α) : FailsWithin allowed (pure value : Database α) := by
  intro connection failure impossible
  cases impossible

theorem failsWithin_require
    {outcome : Except Failure α}
    (fails : ∀ failure, outcome = .error failure → allowed failure) :
    FailsWithin allowed (require outcome) :=
  fun _ => fails

theorem FailsWithin.bind
    {action : Database α}
    {next : α → Database β}
    (first : FailsWithin allowed action)
    (second : ∀ value, FailsWithin allowed (next value)) :
    FailsWithin allowed (action >>= next) := by
  intro connection failure failed
  rw [on_bind] at failed
  have here := first connection
  generalize action.on connection = outcome at failed here
  rcases outcome with ⟨result, after⟩
  cases result with
  | error other =>
      cases failed
      exact here failure rfl
  | ok value => exact second value after failure failed

theorem failsWithin_driver
    {sql : Option String}
    {call : Connection → Except Fault α × Connection}
    (fails : ∀ fault : Fault, allowed (.ofFault sql fault)) :
    FailsWithin allowed (driver sql call) := by
  intro connection failure failed
  have mapped : (call connection).1.mapError (Failure.ofFault sql) = .error failure := failed
  rcases Outcome.mapError_eq_error_iff.1 mapped with ⟨fault, -, rfl⟩
  exact fails fault

theorem FailsWithin.acquire
    {action : Endpoint → Database α}
    (fails : ∀ endpoint, FailsWithin allowed (action endpoint)) :
    FailsWithin allowed (acquire action) := by
  intro connection failure failed
  rw [on_acquire] at failed
  split_ifs at failed
  · exact fails .borrowed _ failure failed
  · exact fails .handle connection failure failed

/-- Executing a statement fails only by a fault. -/
theorem failsWithin_execute
    (fails : ∀ (sql : Option String) (fault : Fault), allowed (.ofFault sql fault))
    (sql : String)
    (arguments : List Value)
    (dialect : Option String) :
    FailsWithin allowed (execute sql arguments dialect) := by
  refine FailsWithin.acquire fun _ => ?_
  refine (failsWithin_driver (fails none)).bind fun cursor => ?_
  have runs :
      FailsWithin allowed (run cursor sql arguments >>= fun running =>
        pure running.reply.affected) :=
    (failsWithin_driver (fails (some sql))).bind fun running => failsWithin_pure _
  -- Closing the cursor keeps the outcome.
  exact fun connection failure failed => runs connection failure failed

end Database

namespace Failure

theorem isOther_ofFault (sql : Option String) (fault : Fault) : (ofFault sql fault).IsOther := by
  intro patch entity same
  rw [ofFault] at same
  cases kind : fault.kind with
  | _ =>
      rw [kind] at same
      cases same

theorem isOther_ofBindError (error : BindError) : (ofBindError error).IsOther := by
  intro patch entity same
  cases error with
  | _ => cases same

theorem isOther_ofInvalid (issues : List Issue) : (ofInvalid issues).IsOther := by
  intro patch entity same
  rw [ofInvalid, ofIssues] at same
  split at same
  · cases same
  · split at same
    · rename_i cause _
      cases cause with
      | _ => cases same
    · cases same

end Failure

theorem LoadFault.isOther_failure (fault : LoadFault) : fault.failure.IsOther := by
  intro patch entity same
  cases fault with
  | _ => cases same

theorem Model.isOther_of_put
    {model : Model}
    {fields : List (String × Value)}
    {name : String}
    {value : Value}
    {failure : Failure}
    (failed : model.put fields name value = .error failure) :
    failure.IsOther := by
  rintro patch entity rfl
  rw [put] at failed
  split_ifs at failed
  cases failed

theorem Model.isOther_of_checkAssignable
    {model : Model}
    {name : String}
    {failure : Failure}
    (failed : model.checkAssignable name = .error failure) :
    failure.IsOther := by
  rintro patch entity rfl
  rw [checkAssignable] at failed
  split_ifs at failed
  all_goals cases failed

theorem Model.isOther_of_stored
    {model : Model}
    {name : String}
    {value : Value}
    {failure : Failure}
    (failed : model.stored name value = .error failure) :
    failure.IsOther := by
  rw [stored] at failed
  split_ifs at failed
  rcases Outcome.mapError_eq_error_iff.1 failed with ⟨issues, -, rfl⟩
  exact Failure.isOther_ofInvalid issues

theorem Model.isOther_of_assign
    {model : Model}
    {shared : List String}
    {fields : List (String × Value)}
    {name : String}
    {value : Value}
    {failure : Failure}
    (failed : model.assign shared fields name value = .error failure) :
    failure.IsOther := by
  rw [assign] at failed
  split_ifs at failed
  · cases failed
    intro patch entity impossible
    cases impossible
  · rcases Outcome.bind_eq_error_iff.1 failed with refused | ⟨_, -, failed⟩
    · exact isOther_of_checkAssignable refused
    rcases Outcome.bind_eq_error_iff.1 failed with unread | ⟨kept, -, failed⟩
    · exact isOther_of_stored unread
    · exact isOther_of_put failed

theorem Entity.isOther_of_assign
    {entity : Entity}
    {name : String}
    {value : Value}
    {failure : Failure}
    (failed : entity.assign name value = .error failure) :
    failure.IsOther := by
  rw [assign, Outcome.map_eq_error_iff] at failed
  exact Model.isOther_of_assign failed

/-- Assigning several values ends by a failure of one of them, or because there is no value. -/
theorem Assigned.exists_of_result_ofNames
    {α : Type}
    {assign : α → String → Value → Except Failure α}
    {value : String → Except Failure Value}
    {object : α}
    {names : List String}
    {failure : Failure}
    (failed : (Assigned.ofNames assign value object names).result = .error failure) :
    ∃ (before : α) (name : String), (value name >>= assign before name) = .error failure := by
  induction names generalizing object with
  | nil => cases failed
  | cons name rest inductionHypothesis =>
      rw [ofNames] at failed
      cases assigned : value name >>= assign object name with
      | error other =>
          rw [assigned] at failed
          cases failed
          exact ⟨object, name, assigned⟩
      | ok changed =>
          rw [assigned] at failed
          exact inductionHypothesis failed

namespace Entity

variable {entity : Entity} {row : PatchRow} {compiled : CompiledPatch}

theorem isOther_of_result_applyTo
    {failure : Failure}
    (failed : (row.applyTo compiled assign entity).result = .error failure) :
    failure.IsOther := by
  rcases Assigned.exists_of_result_ofNames failed with ⟨before, name, assigned⟩
  rw [fieldValue] at assigned
  cases found : row.fields.lookup name with
  | none =>
      rw [found] at assigned
      cases assigned
      intro patch entity impossible
      cases impossible
  | some value =>
      rw [found] at assigned
      exact isOther_of_assign assigned

/-- To patch an entity never fails because the patch is of another class. -/
theorem failsWithin_patch (patchName : String) :
    Database.FailsWithin Failure.IsOther (entity.patch row patchName compiled) := by
  have hides (member : String) :
      Database.FailsWithin Failure.IsOther (Database.require (row.refuseField member)) := by
    apply Database.failsWithin_require
    rintro failure failed patch entity rfl
    rw [PatchRow.refuseField] at failed
    cases found : row.fields.lookup member with
    | none =>
        rw [found] at failed
        cases failed
    | some value =>
        rw [found] at failed
        cases failed
  refine Database.FailsWithin.bind ?_ fun _ => ?_
  · apply Database.failsWithin_require
    rintro failure failed patch entity rfl
    rw [checkBackend, TableClass.compiledOr] at failed
    split at failed
    · rw [Outcome.ok_bind] at failed
      dsimp only at failed
      split_ifs at failed
      · cases failed
      · cases failed
    · cases failed
  refine Database.FailsWithin.bind ?_ fun identifier => ?_
  · apply Database.failsWithin_require
    rintro failure failed patch _ rfl
    rw [identifier, TableClass.compiledOr] at failed
    split at failed
    · rw [Outcome.ok_bind, fieldValue] at failed
      split at failed
      · cases failed
      · cases failed
    · cases failed
  refine (hides "patch_row").bind fun _ => ?_
  refine Database.FailsWithin.bind ?_ fun _ => ?_
  · refine Database.FailsWithin.bind ?_ fun arguments => ?_
    · apply Database.failsWithin_require
      intro failure failed
      rcases Outcome.mapError_eq_error_iff.1 failed with ⟨error, -, rfl⟩
      exact Failure.isOther_ofBindError error
    · refine (Database.failsWithin_execute Failure.isOther_ofFault _ _ _).bind fun _ => ?_
      exact Database.failsWithin_pure _
  exact (hides "apply_to").bind fun _ => Database.failsWithin_pure _

end Entity

namespace SessionAction

variable {α β ι : Type} {session : Session} {allowed : Failure → Prop}

/-- An action on a session fails only in allowed ways. -/
def FailsWithin (session : Session) (allowed : Failure → Prop) (action : SessionAction α) : Prop :=
  ∀ failure : Failure, (action.on session).1 = .error failure → allowed failure

theorem failsWithin_pure (value : α) :
    FailsWithin session allowed (pure value : SessionAction α) := by
  intro failure impossible
  cases impossible

theorem failsWithin_throw {failure : Failure} (isAllowed : allowed failure) :
    FailsWithin session allowed (throw failure : SessionAction α) := by
  rintro other ⟨⟩
  exact isAllowed

theorem FailsWithin.bind
    {action : SessionAction α}
    {next : α → SessionAction β}
    (first : FailsWithin session allowed action)
    (second :
      ∀ (value : α) (after : Session),
        action.on session = (.ok value, after) → FailsWithin after allowed (next value)) :
    FailsWithin session allowed (action >>= next) := by
  intro failure failed
  rw [on_bind] at failed
  rw [FailsWithin] at first
  generalize action.on session = outcome at failed first second
  rcases outcome with ⟨result, after⟩
  cases result with
  | error other =>
      cases failed
      exact first failure rfl
  | ok value => exact second value after rfl failure failed

/-- An action that goes on with what is known already fails only as it goes on. -/
theorem failsWithin_bind_of_on
    {action : SessionAction α}
    {next : α → SessionAction β}
    {value : α}
    {after : Session}
    (isOn : action.on session = (.ok value, after))
    (goesOn : FailsWithin after allowed (next value)) :
    FailsWithin session allowed (action >>= next) := by
  intro failure failed
  rw [on_bind, isOn] at failed
  exact goesOn failure failed

theorem failsWithin_forIn
    {body : ι → PUnit → SessionAction (ForInStep PUnit)}
    (each :
      ∀ (item : ι) (state : PUnit) (session : Session),
        FailsWithin session allowed (body item state))
    (items : List ι)
    (session : Session) :
    FailsWithin session allowed (forIn items PUnit.unit body) := by
  induction items generalizing session with
  | nil => exact failsWithin_pure _
  | cons item rest inductionHypothesis =>
      rw [List.forIn_cons]
      refine (each item PUnit.unit session).bind fun next after _ => ?_
      cases next with
      | done state => exact failsWithin_pure _
      | yield state => exact inductionHypothesis after

theorem failsWithin_get : FailsWithin session allowed (get : SessionAction Session) := by
  intro failure impossible
  cases impossible

theorem failsWithin_modify (change : Session → Session) :
    FailsWithin session allowed (modify change : SessionAction Unit) := by
  intro failure impossible
  cases impossible

theorem failsWithin_require
    {outcome : Except Failure α}
    (fails : ∀ failure, outcome = .error failure → allowed failure) :
    FailsWithin session allowed (require outcome) :=
  fails

theorem failsWithin_named
    {entries : List (String × α)}
    {name : String}
    (missing : allowed (.unknownName name)) :
    FailsWithin session allowed (named entries name) := by
  apply failsWithin_require
  intro failure failed
  split at failed
  · cases failed
  · cases failed
    exact missing

theorem failsWithin_through
    {name : String}
    {action : Database α}
    (missing : allowed (.unknownName name))
    (fails : action.FailsWithin allowed) :
    FailsWithin session allowed (through name action) := by
  refine failsWithin_get.bind fun seen _ _ => ?_
  refine (failsWithin_named missing).bind fun connection after _ => ?_
  intro failure failed
  exact fails { connection with journal := [] } failure failed

theorem failsWithin_refuseField (object : Held) (member : String) :
    FailsWithin session Failure.IsOther (refuseField object member) := by
  rw [refuseField]
  cases object.fields.lookup member with
  | none => exact failsWithin_pure ()
  | some value =>
      apply failsWithin_throw
      intro patch entity impossible
      cases impossible

theorem eq_of_on
    {action : SessionAction α}
    {value : α}
    {after : Session}
    (keeps : Keeps id action)
    (isOn : action.on session = (.ok value, after)) :
    session = after := by
  have kept := keeps session
  rw [isOn] at kept
  exact kept.symm

theorem failsWithin_patchClass (number : Nat) :
    FailsWithin session Failure.IsOther (patchClass number) := by
  refine failsWithin_get.bind fun seen _ _ => ?_
  cases seen.classes.patch? number with
  | none => exact failsWithin_throw fun _ _ impossible => nomatch impossible
  | some patch => exact failsWithin_pure patch

theorem failsWithin_targetOf (patch : PatchClass) :
    FailsWithin session Failure.IsOther (targetOf patch) := by
  refine failsWithin_get.bind fun seen _ _ => ?_
  cases (seen.classes.patchLayers patch).findSome? PatchClass.target with
  | none => exact failsWithin_throw fun _ _ impossible => nomatch impossible
  | some target => exact failsWithin_pure target

theorem failsWithin_ofReport (report : Report α) :
    FailsWithin session Failure.IsOther (ofReport report) := by
  intro failure failed patch entity same
  have mapped : report.outcome.mapError Failure.refused = .error failure := failed
  rcases Outcome.mapError_eq_error_iff.1 mapped with ⟨error, -, rfl⟩
  cases same

theorem failsWithin_importEntity (path : String) :
    FailsWithin session Failure.IsOther (importEntity path) := by
  intro failure failed
  rw [on_importEntity] at failed
  rcases Outcome.mapError_eq_error_iff.1 failed with ⟨fault, -, rfl⟩
  exact fault.isOther_failure

theorem failsWithin_compiledPatch (number : Nat) :
    FailsWithin session Failure.IsOther (compiledPatch number) := by
  refine failsWithin_get.bind fun seen _ _ => ?_
  refine (failsWithin_patchClass number).bind fun patch _ _ => ?_
  cases (seen.classes.patchLayers patch).findSome? PatchClass.compiled with
  | some compiled => exact failsWithin_pure compiled
  | none =>
      refine (failsWithin_targetOf patch).bind fun target _ _ => ?_
      refine (failsWithin_importEntity target.path).bind fun found? _ _ => ?_
      cases found? with
      | some found =>
          refine (failsWithin_ofReport _).bind fun compiled _ _ => ?_
          exact (failsWithin_modify _).bind fun _ _ _ => failsWithin_pure compiled
      | none => exact failsWithin_throw fun _ _ impossible => nomatch impossible

/-- What a patch changes is held, whether or not assigning has failed. -/
theorem failsWithin_holdApplied
    {patchName objectName : String}
    {compiled : CompiledPatch}
    {rebuild : α → Held}
    {applied : Assigned α}
    (fails : ∀ failure, applied.result = .error failure → allowed failure) :
    FailsWithin session allowed (holdApplied patchName objectName compiled rebuild applied) := by
  refine (failsWithin_modify _).bind fun _ _ _ => ?_
  refine FailsWithin.bind ?_ fun _ _ _ => failsWithin_require fails
  apply failsWithin_forIn
  intro field _ before
  split_ifs
  · exact (failsWithin_modify _).bind fun _ _ _ => failsWithin_pure _
  · exact (failsWithin_modify _).bind fun _ _ _ => failsWithin_pure _
  · exact failsWithin_pure _

theorem exists_of_on_through
    {name : String}
    {action : Database α}
    {value : α}
    {after : Session}
    (acted : (through name action).on session = (.ok value, after)) :
    ∃ connection later : Connection, action.on connection = (.ok value, later) := by
  have ends :
      Ends session (fun _ => True) (through name action) fun value _ =>
        ∃ connection later : Connection, action.on connection = (.ok value, later) := by
    apply ends_through trivial
    · intro connection after failure _ _
      trivial
    · intro connection after value _ isOn
      exact ⟨_, after, isOn⟩
  rw [Ends, acted] at ends
  exact ends

/-- Once a patch belongs to the class of an entity, patching fails for no other class. -/
theorem failsWithin_patch_of_isTarget
    {connection name patchName : String}
    {entity : Entity}
    {row : PatchRow}
    {patch : PatchClass}
    (isHeld : session.held.lookup name = some (.entity entity))
    (isPatch : session.held.lookup patchName = some (.patch row))
    (isClass : session.classes.patch? row.patch = some patch)
    (belongs :
      (isTarget patch (entity.table.paths ++ session.classes.rootPaths)).on session =
        (.ok true, session)) :
    FailsWithin session Failure.IsOther (perform connection (.patch name patchName)) := by
  refine failsWithin_bind_of_on (on_held isHeld) ?_
  refine FailsWithin.bind (failsWithin_refuseField _ _) fun _ after isOn => ?_
  cases eq_of_on (keeps_refuseField _ "patch") isOn
  refine FailsWithin.bind ?_ fun _ _ _ => failsWithin_pure _
  refine failsWithin_bind_of_on (on_held isPatch) ?_
  refine FailsWithin.bind (failsWithin_refuseField _ _) fun _ after isOn => ?_
  cases eq_of_on (keeps_refuseField _ "targets") isOn
  refine failsWithin_bind_of_on rfl ?_
  refine failsWithin_bind_of_on rfl ?_
  refine failsWithin_bind_of_on (on_patchClass isClass) ?_
  refine failsWithin_bind_of_on belongs ?_
  refine (failsWithin_compiledPatch _).bind fun compiled _ _ => ?_
  have missing : (Failure.unknownName connection).IsOther :=
    fun _ _ impossible => nomatch impossible
  refine FailsWithin.bind ?_ fun applied _ isApplied => ?_
  · exact failsWithin_through missing (Entity.failsWithin_patch patch.name)
  · rcases exists_of_on_through isApplied with ⟨handle, later, acted⟩
    apply failsWithin_holdApplied
    intro failure failed
    rw [(Entity.exists_of_patch acted).2.1] at failed
    exact Entity.isOther_of_result_applyTo failed

theorem on_definedClass
    {identity : Nat}
    {found : DefinedClass}
    (isClass : session.classes.class? identity = some found) :
    (definedClass identity).on session = (.ok found, session) := by
  rw [definedClass, on_bind_of_on on_get, isClass]
  rfl

theorem on_isTarget
    {patch : PatchClass}
    {target : PatchTarget}
    (isPatchTarget :
      (session.classes.patchLayers patch).findSome? PatchClass.target = some target)
    (paths : List String) :
    (isTarget patch paths).on session = (.ok (paths.contains target.path), session) := by
  rw [isTarget, on_bind_of_on (on_targetOf isPatchTarget)]
  rfl

end SessionAction

/-- A name that leads from a module to a table class is bound to it in the module. -/
theorem Classes.lookup_of_walk_singleton
    {classes : Classes}
    {moduleName name : String}
    {table : TableClass}
    (walked : classes.walk (.module moduleName) [name] = some (.table table)) :
    (classes.namesIn moduleName).lookup name = some (.defined (.table table)) := by
  rcases Option.bind_eq_some_iff.1 walked with ⟨thing, isThing, isTarget⟩
  have found : (classes.namesIn moduleName).lookup name = some thing := by
    rw [List.foldlM_cons, Option.bind_eq_bind, Option.bind_eq_some_iff] at isThing
    rcases isThing with ⟨only, isOnly, ⟨⟩⟩
    exact isOnly
  rw [found]
  rcases thing with (other | number) | owner | otherName | number
  · cases isTarget
    rfl
  · cases isTarget
  · cases isTarget
  · cases isTarget
  · rw [target?] at isTarget
    split_ifs at isTarget
    cases isTarget

open SessionAction

/--
A patch class applies to a table class: it belongs to the class and to every class over it, and
patching an entity of one of these is never refused as a patch of another class.
-/
structure Session.Applies
    (session : Session)
    (patch : PatchClass)
    (resolved : TableClass) :
    Prop where
  belongs
      (table : TableClass)
      (isOver : resolved.layers <:+ table.layers) :
      (isTarget patch (table.paths ++ session.classes.rootPaths)).on session = (.ok true, session)
  targets
      (connection patchName path : String)
      (given : Held)
      (number identity : Nat)
      (table : TableClass)
      (isHeld : session.held.lookup patchName = some given)
      (isFree : given.fields.lookup "targets" = none)
      (isNumber : (patchNumber "targets" given).on session = (.ok number, session))
      (isPatch : session.classes.patch? number = some patch)
      (isAt : (atPath path).on session = (.ok (.definedClass identity), session))
      (isTable : session.classes.class? identity = some (.table table))
      (isOver : resolved.layers <:+ table.layers) :
      (perform connection (.targets patchName path)).on session =
        (.ok (.value (.bool true)), session)
  patches
      (connection name patchName : String)
      (entity : Entity)
      (row : PatchRow)
      (isHeld : session.held.lookup name = some (.entity entity))
      (isRow : session.held.lookup patchName = some (.patch row))
      (isPatch : session.classes.patch? row.patch = some patch)
      (isOver : resolved.layers <:+ entity.table.layers)
      (shown className : String) :
      ((perform connection (.patch name patchName)).on session).1 ≠
        .error (.mismatch (.unrelatedPatch shown className))

namespace Session

variable {earlier session : Session} {patch : PatchClass} {target : PatchTarget}
  {resolved : TableClass}

/-- What lasts holds after a dotted path was followed. -/
theorem IsLasting.follow
    {property : Session → Prop}
    (lasts : IsLasting property)
    (holds : property session)
    (path : String) :
    property (session.afterFollowing path) :=
  lasts.ofCatalogue (holds_importEntity lasts holds path) rfl

theorem applies_of_mem_paths
    (isPatchTarget :
      (session.classes.patchLayers patch).findSome? PatchClass.target = some target)
    (member : target.path ∈ resolved.paths ++ session.classes.rootPaths) :
    session.Applies patch resolved := by
  have belongs
      (table : TableClass)
      (isOver : resolved.layers <:+ table.layers) :
      (isTarget patch (table.paths ++ session.classes.rootPaths)).on session =
        (.ok true, session) := by
    have isMember : target.path ∈ table.paths ++ session.classes.rootPaths := by
      rcases List.mem_append.1 member with isPath | isRoot
      · exact List.mem_append_left _ ((isOver.map ClassLayer.path).subset isPath)
      · exact List.mem_append_right _ isRoot
    rw [on_isTarget isPatchTarget, List.contains_iff_mem.2 isMember]
  constructor
  case belongs => exact belongs
  case targets =>
    intro connection patchName path given number identity table isHeld isFree isNumber isPatch
      isAt isTable isOver
    have notHidden : (refuseField given "targets").on session = (.ok (), session) := by
      rw [refuseField, isFree]
      rfl
    have isPaths :
        (pathsOf (.definedClass identity)).on session =
          (.ok (table.paths ++ session.classes.rootPaths), session) := by
      rw [pathsOf, on_bind_of_on on_get]
      exact on_bind_of_on (on_definedClass isTable)
    rw [perform, on_bind_of_on (on_held isHeld), on_bind_of_on notHidden,
      on_bind_of_on isNumber, on_bind_of_on (on_patchClass isPatch), on_bind_of_on isAt,
      on_bind_of_on isPaths, on_bind_of_on (belongs table isOver)]
    rfl
  case patches =>
    intro connection name patchName entity row isHeld isRow isPatch isOver shown className failed
    have other :=
      failsWithin_patch_of_isTarget isHeld isRow isPatch (belongs entity.table isOver) _ failed
    exact other shown className rfl

/--
A patch class applies to the class that its path leads to exactly if the path is that of the class
or of one that it extends.  The path leads there from a module on it.  Where a single name follows
that of the module, and names of modules are bound to classes of their paths only, it applies.
-/
theorem applies_iff_of_follow
    (isPatchTarget :
      (session.classes.patchLayers patch).findSome? PatchClass.target = some target)
    (resolves : (earlier.follow target.path).outcome = .ok (some (.table resolved))) :
    (session.Applies patch resolved ↔
        target.path ∈ resolved.paths ++ session.classes.rootPaths) ∧
      ∃ place ∈ Classes.placesOf target.path,
        (earlier.follow target.path).classes.walk (.module place.1) place.2 =
            some (.table resolved) ∧
          (place.2.length = 1 → earlier.IsLaidOut → session.Applies patch resolved) := by
  refine ⟨⟨fun applies => ?_, applies_of_mem_paths isPatchTarget⟩, ?_⟩
  · have answered := applies.belongs resolved (List.suffix_refl _)
    rw [on_isTarget isPatchTarget] at answered
    have contains := Except.ok.inj (Prod.ext_iff.1 answered).1
    exact List.contains_iff_mem.1 contains
  · rcases Loader.exists_walk_of_importEntity resolves with ⟨place, member, walked⟩
    refine ⟨place, member, walked, fun isSingle isLaidOut => ?_⟩
    have isPath := Classes.eq_of_mem_placesOf member
    rcases List.length_eq_one_iff.1 isSingle with ⟨name, names⟩
    rw [names] at walked isPath
    have bound := Classes.lookup_of_walk_singleton walked
    have lies :=
      (isLasting_isLaidOut.follow isLaidOut target.path).classes place.1 (name, _)
        (Entries.mem_of_lookup bound) resolved rfl
    apply applies_of_mem_paths isPatchTarget
    rw [isPath, Classes.joinParts, String.intercalate_singleton, ← lies]
    exact List.mem_append_left _ List.mem_cons_self

end Session

/-! ## A patch of users -/

def userFields : List ClassField :=
  [{ field := { name := "id", type := .integer } }, { field := { name := "name", type := .text } }]

/--
Users in a module, to which names are bound, then admins that extend them, and a patch whose entity
is given by a path.
-/
def linkedOperations (home : String) (bound : List Operation) (path : String) : List Operation :=
  .defineTable {
      name := "User"
      marker :=
        .options [⟨"backend", .text "sqlite"⟩, ⟨"table", .text "users"⟩, ⟨"id", .text "id"⟩]
      fields := userFields
      moduleName := some home }
    :: bound ++
  [.defineTable {
      name := "Admin"
      base := some "User"
      marker :=
        .options [⟨"backend", .text "sqlite"⟩, ⟨"table", .text "admins"⟩, ⟨"id", .text "id"⟩]
      fields := userFields },
    .definePatch {
      name := "UserPatch"
      marker :=
        .options
          [⟨"table_name", .text "users"⟩, ⟨"table", .text path⟩, ⟨"id", .text "id"⟩,
            ⟨"backend", .text "sqlite"⟩]
      fields := [{ field := { name := "name", type := .text } }] },
    .create "User" [("id", .int 1), ("name", .text "a")] (some "user"),
    .create "UserPatch" [("name", .text "b")] (some "change")]

/-- A session with two modules, in which nothing is defined. -/
def bareSession : Session where
  workspace := .standard
  classes := { moduleName := "app", modules := [("app", []), ("models", [])] }
  connections := [("main", {})]

def linkedSession (home : String) (bound : List Operation) (path : String) : Session :=
  (linkedOperations home bound path).foldl
    (fun session performed => ((perform "main" performed).on session).2) bareSession

theorem reached_bareSession : bareSession.Reached := by
  apply Session.Reached.start
  constructor
  · intro moduleName entry member
    rw [Classes.namesIn] at member
    cases isLoaded : bareSession.classes.modules.lookup moduleName with
    | none =>
        rw [isLoaded] at member
        cases member
    | some names =>
        rw [isLoaded] at member
        have isModule := Entries.mem_of_lookup isLoaded
        simp only [bareSession, List.mem_cons, Prod.mk.injEq, List.not_mem_nil, or_false]
          at isModule
        rcases isModule with ⟨-, rfl⟩ | ⟨-, rfl⟩
        · cases member
        · cases member
  · exact fun _ _ _ isLaidOut => isLaidOut

theorem reached_linkedSession (home path : String) : (linkedSession home [] path).Reached := by
  have performs
      (operations : List Operation)
      (bindNone : ∀ operation ∈ operations, operation.bindsName = false)
      (session : Session)
      (isReached : session.Reached) :
      (operations.foldl
        (fun session performed => ((perform "main" performed).on session).2) session).Reached := by
    induction operations generalizing session with
    | nil => exact isReached
    | cons operation rest inductionHypothesis =>
        refine inductionHypothesis
          (fun other member => bindNone other (List.mem_cons_of_mem operation member)) _ ?_
        exact isReached.performed "main" operation (bindNone operation List.mem_cons_self)
  refine performs _ (fun operation member => ?_) _ reached_bareSession
  simp only [linkedOperations, List.nil_append, List.cons_append, List.mem_cons,
    List.not_mem_nil, or_false] at member
  rcases member with rfl | rfl | rfl | rfl | rfl
  all_goals rfl

/-- The table class that a path leads to in a session. -/
def Session.tableAt? (session : Session) (path : String) : Option TableClass :=
  match session.classes.lookupEntity path with
  | some (.table found) => some found
  | _ => none

theorem Session.outcome_follow_of_tableAt?
    {session : Session}
    {path : String}
    {table : TableClass}
    (isThere : session.tableAt? path = some table) :
    (session.follow path).outcome = .ok (some (.table table)) := by
  rw [tableAt?] at isThere
  split at isThere
  · rename_i found isFound
    cases isThere
    rw [follow, Loader.importEntity_of_lookupEntity isFound]
  · cases isThere

/-- The target of a patch class in a session. -/
def Session.target? (session : Session) (number : Nat) : Option PatchTarget :=
  (session.classes.patch? number).bind fun patch =>
    (session.classes.patchLayers patch).findSome? PatchClass.target

/-- The patch and the class that an outcome refuses to bring together. -/
def refused? : Except Failure StepResult → Option (String × String)
  | .error (.mismatch (.unrelatedPatch patch entity)) => some (patch, entity)
  | _ => none

/-- The first patch class of a session has a statement for the users that its path leads to. -/
structure Session.Links
    (session : Session)
    (patch : PatchClass)
    (target : PatchTarget)
    (resolved : TableClass) :
    Prop where
  isPatch : session.classes.patch? 0 = some patch
  isTarget : (session.classes.patchLayers patch).findSome? PatchClass.target = some target
  leads : (session.follow target.path).outcome = .ok (some (.table resolved))
  name : resolved.name = "User"
  isCompiled : patch.compiled.isSome = true

theorem Session.exists_links
    {session : Session}
    {path : String}
    {paths : List String}
    (isTarget : (session.target? 0).map PatchTarget.path = some path)
    (isTable :
      (session.tableAt? path).map (fun table => (table.name, table.paths)) = some ("User", paths))
    (isCompiled : (session.classes.patch? 0).all (fun patch => patch.compiled.isSome) = true) :
    ∃ (patch : PatchClass) (target : PatchTarget) (resolved : TableClass),
      session.Links patch target resolved ∧ target.path = path ∧ resolved.paths = paths := by
  rcases Option.map_eq_some_iff.1 isTarget with ⟨target, isTarget, isPath⟩
  rcases Option.bind_eq_some_iff.1 isTarget with ⟨patch, isPatch, isPatchTarget⟩
  rcases Option.map_eq_some_iff.1 isTable with ⟨resolved, isResolved, named⟩
  rcases Prod.ext_iff.1 named with ⟨name, arePaths⟩
  rw [isPatch] at isCompiled
  have leads : (session.follow target.path).outcome = .ok (some (.table resolved)) := by
    rw [isPath]
    exact outcome_follow_of_tableAt? isResolved
  exact
    ⟨patch, target, resolved, ⟨isPatch, isPatchTarget, leads, name, isCompiled⟩, isPath, arePaths⟩

/-- A patch applies to users whose class is named by its module and its name. -/
theorem applies_of_name_path :
    ∃ (patch : PatchClass) (target : PatchTarget) (resolved : TableClass),
      (linkedSession "app" [] "app.User").Reached ∧
        (linkedSession "app" [] "app.User").Links patch target resolved ∧
        target.path = "app.User" ∧
        (linkedSession "app" [] "app.User").Applies patch resolved ∧
        ((perform "main" (.patch "user" "change")).on (linkedSession "app" [] "app.User")).1.isOk =
          true := by
  have linked :=
    @Session.exists_links (linkedSession "app" [] "app.User") "app.User" ["app.User"]
      (by decide +kernel) (by decide +kernel) (by decide +kernel)
  have succeeds :
      ((perform "main" (.patch "user" "change")).on (linkedSession "app" [] "app.User")).1.isOk =
        true := by
    decide +kernel
  rcases linked with ⟨patch, target, resolved, links, isPath, -⟩
  have isReached := reached_linkedSession "app" "app.User"
  rcases (Session.applies_iff_of_follow links.isTarget links.leads).2 with
    ⟨place, member, -, applies⟩
  have places : Classes.placesOf target.path = [("app", ["User"])] := by
    rw [isPath]
    decide +kernel
  rw [places, List.mem_singleton] at member
  rw [member] at applies
  exact
    ⟨patch, target, resolved, isReached, links, isPath, applies rfl isReached.isLaidOut, succeeds⟩

/-- A patch of users does not apply to them although it has a statement for them. -/
def Session.MissesUsers (session : Session) : Prop :=
  ∃ (patch : PatchClass) (target : PatchTarget) (resolved : TableClass),
    session.Links patch target resolved ∧
      ¬session.Applies patch resolved ∧
        refused? ((perform "main" (.patch "user" "change")).on session).1 =
          some ("UserPatch", "User")

theorem Session.missesUsers_of_other_path
    {session : Session}
    {path : String}
    {paths : List String}
    (isTarget : (session.target? 0).map PatchTarget.path = some path)
    (isTable :
      (session.tableAt? path).map (fun table => (table.name, table.paths)) = some ("User", paths))
    (isCompiled : (session.classes.patch? 0).all (fun patch => patch.compiled.isSome) = true)
    (isOther : path ∉ paths ++ session.classes.rootPaths)
    (isRefused :
      refused? ((perform "main" (.patch "user" "change")).on session).1 =
        some ("UserPatch", "User")) :
    session.MissesUsers := by
  rcases exists_links isTarget isTable isCompiled with
    ⟨patch, target, resolved, links, isPath, arePaths⟩
  refine ⟨patch, target, resolved, links, fun applies => isOther ?_, isRefused⟩
  have answered := applies.belongs resolved (List.suffix_refl _)
  rw [on_isTarget links.isTarget, isPath, arePaths] at answered
  exact List.contains_iff_mem.1 (Except.ok.inj (Prod.ext_iff.1 answered).1)

/--
A path that goes through a class to the one it extends, and a path of a module to which a class of
another module is bound, lead to a class with another path.
-/
theorem not_applies_of_other_path :
    (linkedSession "app" [] "app.Admin.__base__").MissesUsers ∧
      (linkedSession "models" [.bind "app" "User" "User"] "app.User").MissesUsers := by
  constructor
  · apply @Session.missesUsers_of_other_path _ "app.Admin.__base__" ["app.User"]
    all_goals decide +kernel
  · apply @Session.missesUsers_of_other_path _ "app.User" ["models.User"]
    all_goals decide +kernel

end SqlMapping
