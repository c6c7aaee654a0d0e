import SqlMapping.Proofs.Entity.PatchedColumns
import SqlMapping.Proofs.Session.FirstUse
import SqlMapping.Proofs.Session.Layout
import SqlMapping.Proofs.Session.Writing

/-!
# Patching what a session holds

A patch changes an entity only after the statement in use was executed, and only in the fields that
the statement writes.  These are all fields of the patch exactly where the statement leaves out
none that differs.

The main statement says this of patches together with all other ways to change an entity.
-/

namespace SqlMapping

namespace Entity

/-- A patch is written by the backend that the statements of an entity are for. -/
def SharesBackend (entity : Entity) (compiled : CompiledPatch) : Prop :=
  ∃ table : CompiledTable,
    entity.table.compiled? = some table ∧
      compiled.plan.statement.dialect = table.backend.name

theorem checkBackend_eq_ok_iff
    {entity : Entity}
    {patchName : String}
    {compiled : CompiledPatch} :
    entity.checkBackend patchName compiled = .ok () ↔ entity.SharesBackend compiled := by
  rw [checkBackend, TableClass.compiledOr, SharesBackend]
  cases entity.table.compiled? with
  | none =>
      constructor
      · intro impossible
        cases impossible
      · rintro ⟨table, impossible, -⟩
        cases impossible
  | some table =>
      dsimp only [Outcome.ok_bind]
      constructor
      · intro accepted
        split_ifs at accepted with same
        exact ⟨table, rfl, same⟩
      · rintro ⟨_, ⟨⟩, same⟩
        exact if_pos same

end Entity

/-- The fields that a statement of a patch writes. -/
def CompiledPatch.fieldNames (compiled : CompiledPatch) : List String :=
  compiled.plan.schema.fields.map PatchField.name

/-- A patch and an entity both have the fields that a statement writes. -/
def PatchRow.Fits (row : PatchRow) (compiled : CompiledPatch) (entity : Entity) : Prop :=
  ∀ name ∈ compiled.fieldNames,
    name ∈ row.fields.map Prod.fst ∧ name ∈ entity.table.fieldNames

/--
The statement of a patch is that of its own declaration, compiled with the schema of the class of
an entity or of one that this extends.
-/
def PatchRow.UsesOwn (row : PatchRow) (compiled : CompiledPatch) (entity : Entity) : Prop :=
  ∃ (workspace : Workspace) (declaration : Declaration) (target : TableClass),
    declaration.fieldNames = row.fields.map Prod.fst ∧
      target.layers <:+ entity.table.layers ∧
      target.compiled?.isSome = true ∧
      (Classes.compileDeclared workspace declaration (.table target)).outcome = .ok compiled

/-- A patch that uses its own statement writes all of its fields, and the entity has them all. -/
theorem PatchRow.UsesOwn.fits
    {row : PatchRow}
    {compiled : CompiledPatch}
    {entity : Entity}
    (usesOwn : row.UsesOwn compiled entity)
    (isDefined : entity.table.IsDefined) :
    row.Fits compiled entity ∧ compiled.fieldNames = row.fields.map Prod.fst := by
  rcases usesOwn with ⟨workspace, declaration, target, declares, isOver, hasSchema, isOwn⟩
  rcases Option.isSome_iff_exists.1 hasSchema with ⟨table, isTable⟩
  rw [Classes.compileDeclared, Report.bind_outcome_eq_ok_iff] at isOwn
  rcases isOwn with ⟨plan, isPlan, isOwn⟩
  rcases Report.bind_outcome_eq_ok_iff.1 isOwn with ⟨backend, -, ⟨⟩⟩
  have isTarget : (PathTarget.table target).schema? = some table.plan.schema := by
    rw [PathTarget.schema?, isTable]
    rfl
  rw [isTarget] at isPlan
  rcases PatchPlan.exists_of_compilePatch isPlan with ⟨-, patchable, targets, -⟩
  have names : CompiledPatch.fieldNames ⟨plan, backend⟩ = row.fields.map Prod.fst :=
    (PatchPlan.map_name_of_targets targets).trans declares
  refine ⟨fun name member => ?_, names⟩
  rw [names] at member
  refine ⟨member, ?_⟩
  rw [← declares] at member
  rcases List.mem_map.1 member with ⟨field, isField, rfl⟩
  -- The schema belongs to a layer of the class, whose fields are all fields of the class.
  rcases List.exists_of_findSome?_eq_some isTable with ⟨layer, isLayer, isCompiled⟩
  apply isDefined.schemasWithin layer (isOver.subset isLayer) table isCompiled
  exact TableSchema.mem_map_name_of_isPatchable (patchable field isField)

namespace Session

/-- The class that a patch belongs to is the class of an entity, or one that it extends. -/
def Targets (session : Session) (row : PatchRow) (entity : Entity) : Prop :=
  ∃ (patch : PatchClass) (target : PatchTarget),
    session.classes.patch? row.patch = some patch ∧
      (session.classes.patchLayers patch).findSome? PatchClass.target = some target ∧
      target.path ∈ entity.table.paths ++ session.classes.rootPaths

/-- A patch has executed the statement in use, and changed the fields that it writes. -/
def Patches
    (before : Session)
    (name : String)
    (entity : Entity)
    (row : PatchRow)
    (compiled : CompiledPatch)
    (after : Session) :
    Prop :=
  ∃ identifier : Value,
    entity.identifier = .ok identifier ∧
      before.Executes compiled.plan.statement row.fields [("id", identifier)] after ∧
      before.Changes name entity compiled.fieldNames row.fields after

/--
An entity that took some fields of a record took all fields of the record exactly if it has the
values of the others already.
-/
theorem Changes.iff_all
    {before after : Session}
    {name : String}
    {entity : Entity}
    {names : List String}
    {source : List (String × Value)}
    (changes : before.Changes name entity names source after)
    (areNames : ∀ field ∈ names, field ∈ source.map Prod.fst) :
    before.Changes name entity (source.map Prod.fst) source after ↔
      ∀ field ∈ source.map Prod.fst, field ∉ names →
        entity.fields.lookup field = source.lookup field := by
  rcases changes with ⟨changed, held, sameTable, lookups⟩
  constructor
  · rintro ⟨other, otherHeld, -, others⟩ field isField isLeft
    have same : (Held.entity changed) = .entity other := by
      have put :
          (Entries.put before.held name (.entity changed)).lookup name =
            (Entries.put before.held name (.entity other)).lookup name := by
        rw [← held, ← otherHeld]
      rw [Entries.lookup_put_self, Entries.lookup_put_self] at put
      exact Option.some.inj put
    cases same
    have takes := others field
    rw [lookups field, if_neg isLeft, if_pos isField] at takes
    exact takes
  · intro same
    refine ⟨changed, held, sameTable, fun field => ?_⟩
    rw [lookups field]
    by_cases isField : field ∈ source.map Prod.fst
    · rw [if_pos isField]
      by_cases isName : field ∈ names
      · rw [if_pos isName]
      · rw [if_neg isName]
        exact same field isField isName
    · rw [if_neg isField, if_neg fun isName => isField (areNames field isName)]

end Session

namespace SessionAction

variable {session : Session} {connection name : String} {entity : Entity}
  {leaves : Session → Prop}

theorem ends_holdApplied
    {patchName : String}
    {compiled : CompiledPatch}
    {changed : Entity}
    {names : List String}
    {gives : Unit → Session → Prop}
    (given :
      ∀ after : Session,
        after.held = Entries.put session.held name (.entity changed) →
          after.journal = session.journal → gives () after) :
    Ends session leaves (holdApplied patchName name compiled .entity ⟨changed, names, .ok ()⟩)
      gives := by
  apply Ends.bind
  apply ends_modify
  apply Ends.bind
  apply ends_forIn
  · intro field before
    split_ifs
    · exact ⟨before.sharing.join ⟨patchName, field.name⟩ ⟨name, field.name⟩, rfl⟩
    · exact ⟨before.sharing.release ⟨name, field.name⟩, rfl⟩
    · exact ⟨before.sharing, rfl⟩
  · intro sharing
    exact given _ rfl rfl

/-- Compiling a patch on its first use executes nothing and changes nothing that is held. -/
theorem keeps_compiledPatch (number : Nat) :
    Keeps (fun session => (session.held, session.journal)) (compiledPatch number) :=
  keeps_compiledPatch_of (fun _ _ => rfl) (fun _ _ => rfl) number

/-- Patching an entity leaves everything as it is, or comes to writing the patch. -/
theorem ends_patch
    {patchName : String}
    {row : PatchRow}
    {gives : StepResult → Session → Prop}
    (isHeld : session.held.lookup name = some (.entity entity))
    (isPatch : session.held.lookup patchName = some (.patch row))
    (left : leaves session)
    (writes :
      ∀ patch : PatchClass,
        session.Targets row entity →
          Ends session leaves
            (compiledPatch row.patch >>= fun compiled =>
              through connection (entity.patch row patch.name compiled) >>=
                holdApplied patchName name compiled .entity)
            fun _ after => gives (.value .null) after) :
    Ends session leaves (perform connection (.patch name patchName)) gives := by
  apply Ends.bind
  apply ends_held isHeld
  apply Ends.bind
  apply ends_refuseField left
  apply Ends.bind
  show Ends session leaves (patchEntity connection name entity patchName) _
  apply Ends.bind
  apply ends_held isPatch
  apply Ends.bind
  apply ends_refuseField left
  apply Ends.bind
  apply ends_get
  apply Ends.bind
  apply ends_pure
  apply Ends.bind
  apply Ends.bind
  apply ends_get
  cases isClass : session.classes.patch? row.patch with
  | none => exact ends_throw left
  | some patch =>
      apply ends_pure
      apply Ends.bind
      apply Ends.bind
      apply Ends.bind
      apply ends_get
      cases isTarget : (session.classes.patchLayers patch).findSome? PatchClass.target with
      | none => exact ends_throw left
      | some target =>
          apply ends_pure
          apply ends_pure
          by_cases belongs : (entity.table.paths ++ session.classes.rootPaths).contains target.path
          · dsimp only
            rw [if_pos belongs]
            exact writes patch ⟨patch, target, isClass, isTarget, List.contains_iff_mem.1 belongs⟩
          · dsimp only
            rw [if_neg belongs]
            apply Ends.bind
            exact ends_throw left

/-- A patch of another entity or for another backend leaves everything as it is. -/
theorem ends_patch_of_refused
    {patchName : String}
    {row : PatchRow}
    (isHeld : session.held.lookup name = some (.entity entity))
    (isPatch : session.held.lookup patchName = some (.patch row))
    (refused :
      ¬session.Targets row entity ∨
        ∀ (compiled : CompiledPatch) (later : Session),
          (compiledPatch row.patch).on session = (.ok compiled, later) →
            ¬entity.SharesBackend compiled) :
    Ends session (fun after => after.held = session.held ∧ after.journal = session.journal)
      (perform connection (.patch name patchName)) fun _ _ => False := by
  refine ends_patch isHeld isPatch ⟨rfl, rfl⟩ fun patch targets => ?_
  have otherBackend := refused.resolve_left (not_not_intro targets)
  apply Ends.bind
  refine ((keeps_compiledPatch row.patch).ends session).mono ?_ ?_
  · intro after same
    exact Prod.ext_iff.1 same
  · rintro compiled later ⟨isCompiled, same⟩
    rcases Prod.ext_iff.1 same with ⟨held, journal⟩
    have unshared := otherBackend compiled later isCompiled
    apply Ends.bind
    apply ends_through
    · exact ⟨held, journal⟩
    · intro handle after failure _ acted
      have nothing :
          ((entity.patch row patch.name compiled).on { handle with journal := [] }).2 =
            { handle with journal := [] } :=
        Entity.snd_on_patch_of_otherBackend fun accepted =>
          unshared (Entity.checkBackend_eq_ok_iff.1 accepted)
      rw [acted] at nothing
      have same : after = { handle with journal := [] } := nothing
      refine ⟨held, ?_⟩
      show later.journal ++ after.journal = session.journal
      rw [same, List.append_nil]
      exact journal
    · intro handle after applied _ acted
      exact absurd (Entity.checkBackend_eq_ok_iff.1 (Entity.exists_of_patch acted).1) unshared

/-- A patch that succeeds is one of the class of the entity. -/
theorem targets_of_isOk_patch
    {patchName : String}
    {row : PatchRow}
    (isHeld : session.held.lookup name = some (.entity entity))
    (isPatch : session.held.lookup patchName = some (.patch row))
    (succeeds : ((perform connection (.patch name patchName)).on session).1.isOk = true) :
    session.Targets row entity := by
  by_contra unrelated
  rcases (ends_patch_of_refused isHeld isPatch (.inl unrelated)).exists_gives succeeds with
    ⟨value, impossible⟩
  exact impossible

/-- What patching leaves when it fails and what it has done when it does not. -/
theorem ends_patch_of_fits
    {patchName : String}
    {row : PatchRow}
    (isHeld : session.held.lookup name = some (.entity entity))
    (isDefined : entity.table.IsDefined)
    (isAssignable : entity.table.IsAssignable)
    (isPatch : session.held.lookup patchName = some (.patch row))
    (keeps : entity.table.Keeps (row.fields.map Prod.fst) row.fields)
    (fits :
      ∀ (compiled : CompiledPatch) (later : Session),
        (compiledPatch row.patch).on session = (.ok compiled, later) → row.Fits compiled entity) :
    Ends session (fun after => after.held = session.held)
      (perform connection (.patch name patchName))
      fun _ after =>
        ∃ (compiled : CompiledPatch) (later : Session),
          (compiledPatch row.patch).on session = (.ok compiled, later) ∧
            session.Patches name entity row compiled after := by
  refine ends_patch isHeld isPatch rfl fun patch _ => ?_
  apply Ends.bind
  refine ((keeps_compiledPatch row.patch).ends session).mono ?_ ?_
  · intro after same
    exact (Prod.ext_iff.1 same).1
  · rintro compiled later ⟨isCompiled, same⟩
    rcases Prod.ext_iff.1 same with ⟨sameHeld, sameJournal⟩
    have laterHeld : later.held = session.held := sameHeld
    have laterJournal : later.journal = session.journal := sameJournal
    have inBoth := fits compiled later isCompiled
    apply Ends.bind
    apply ends_through
    · exact laterHeld
    · intro handle after failure _ _
      exact laterHeld
    · intro handle after applied _ acted
      rcases Entity.exists_of_patch acted with
        ⟨-, isApplied, identifier, values, events, isIdentifier, isBound, leads, asked⟩
      rcases Entity.exists_ofNames_assign isDefined isAssignable
          (fun field member => (inBoth field member).2)
          (fun field member => (inBoth field member).1)
          (fun field member => keeps field (inBoth field member).1) with
        ⟨changed, isChanged, takes⟩
      rw [isApplied, PatchRow.applyTo]
      rw [CompiledPatch.fieldNames] at isChanged
      rw [isChanged]
      apply ends_holdApplied
      intro last held journal
      refine ⟨compiled, later, isCompiled, identifier, isIdentifier,
        ⟨values, events, isBound, ?_, asked⟩, changed, ?_, takes⟩
      · rw [journal]
        show later.journal ++ after.journal = session.journal ++ events
        rw [laterJournal, leads.journal]
        rfl
      · rw [held]
        show Entries.put later.held name (.entity changed) = _
        rw [laterHeld]

/--
An entity changes only after a statement was executed for it, and only where that writes it.  A
patch that uses its own statement and succeeds changes all of its fields, and any other exactly if
the entity has the values already of those that the statement in use leaves out.
-/
theorem changes_after_execution
    (connection : String)
    (isHeld : session.held.lookup name = some (.entity entity))
    (isDefined : entity.table.IsDefined)
    (isAssignable : entity.table.IsAssignable) :
    (∀ (member : String) (arguments : List Value),
        (∀ call : TableCall,
          TableCall.ofName? entity.table member = some call → call.assigns = false) →
        ((callHeld connection name member arguments).on session).2.held = session.held) ∧
      (∀ (identity : Nat) (member : String) (arguments : List Value),
        ((call connection name (.definedClass identity) member arguments).on session).2.held =
          session.held) ∧
      (∀ (member : String) (setter : Setter) (type : TypeRef) (value : Value),
        TableCall.ofName? entity.table member = some (.setter setter type) →
        Ends session
          (fun after =>
            after.held = session.held ∧
              ((∀ checked, type.read entity.table.own.style [] value ≠ .ok checked) →
                after.journal = session.journal))
          (callHeld connection name member [value])
          fun _ after => session.SetsField name entity setter type value after) ∧
      (∀ (member : String) (arguments : List Value),
        session.KeepsFetched connection entity.table →
        TableCall.ofName? entity.table member = some .reload →
        Ends session (fun after => after.held = session.held)
          (callHeld connection name member arguments)
          fun _ after => session.Reloads connection name entity after) ∧
      ∀ (patchName : String) (row : PatchRow),
        session.held.lookup patchName = some (.patch row) →
        ((¬session.Targets row entity ∨
            ∀ (compiled : CompiledPatch) (later : Session),
              (compiledPatch row.patch).on session = (.ok compiled, later) →
                ¬entity.SharesBackend compiled) →
          Ends session (fun after => after.held = session.held ∧ after.journal = session.journal)
            (perform connection (.patch name patchName)) fun _ _ => False) ∧
        (entity.table.Keeps (row.fields.map Prod.fst) row.fields →
          ((∀ (compiled : CompiledPatch) (later : Session),
              (compiledPatch row.patch).on session = (.ok compiled, later) →
                row.UsesOwn compiled entity) →
            Ends session (fun after => after.held = session.held)
              (perform connection (.patch name patchName))
              fun _ after =>
                ∃ (compiled : CompiledPatch) (later : Session),
                  (compiledPatch row.patch).on session = (.ok compiled, later) ∧
                    session.Patches name entity row compiled after ∧
                    session.Changes name entity (row.fields.map Prod.fst) row.fields after) ∧
          ((∀ (compiled : CompiledPatch) (later : Session),
              (compiledPatch row.patch).on session = (.ok compiled, later) →
                row.Fits compiled entity) →
            Ends session (fun after => after.held = session.held)
              (perform connection (.patch name patchName))
              fun _ after =>
                ∃ (compiled : CompiledPatch) (later : Session),
                  (compiledPatch row.patch).on session = (.ok compiled, later) ∧
                    session.Patches name entity row compiled after ∧
                    (session.Changes name entity (row.fields.map Prod.fst) row.fields after ↔
                      ∀ field ∈ row.fields.map Prod.fst, field ∉ compiled.fieldNames →
                        entity.fields.lookup field = row.fields.lookup field))) := by
  refine ⟨?_, ?_, ?_, ?_, ?_⟩
  · intro member arguments noAssignment
    have keeps : Keeps Session.held (call connection name (.entity entity) member arguments) :=
      keeps_call_entity noAssignment connection name arguments
    have ends :
        Ends session (fun after => after.held = session.held)
          (callHeld connection name member arguments)
          fun _ after => after.held = session.held := by
      apply Ends.bind
      apply ends_held isHeld
      apply Ends.bind
      exact (keeps.ends session).mono (fun after same => same) fun value after kept => kept.2
    exact ends.snd
  · intro identity member arguments
    exact
      keeps_call_definedClass ignoresConnections_held connection name identity member arguments
        session
  · intro member setter type value found
    exact ends_set isHeld isDefined isAssignable found
  · intro member arguments keeps found
    exact ends_reload isHeld isDefined isAssignable keeps found
  · intro patchName row isPatch
    refine ⟨ends_patch_of_refused isHeld isPatch, fun keeps => ⟨fun usesOwn => ?_, fun fits => ?_⟩⟩
    · have fits
          (compiled : CompiledPatch)
          (later : Session)
          (isCompiled : (compiledPatch row.patch).on session = (.ok compiled, later)) :=
        (usesOwn compiled later isCompiled).fits isDefined
      refine (ends_patch_of_fits isHeld isDefined isAssignable isPatch keeps
        fun compiled later isCompiled => (fits compiled later isCompiled).1).mono
          (fun after same => same) ?_
      rintro _ after ⟨compiled, later, isCompiled, patches⟩
      refine ⟨compiled, later, isCompiled, patches, ?_⟩
      rcases patches with ⟨identifier, -, -, changes⟩
      rw [← (fits compiled later isCompiled).2]
      exact changes
    · refine (ends_patch_of_fits isHeld isDefined isAssignable isPatch keeps fits).mono
        (fun after same => same) ?_
      rintro _ after ⟨compiled, later, isCompiled, patches⟩
      refine ⟨compiled, later, isCompiled, patches, ?_⟩
      rcases patches with ⟨identifier, -, -, changes⟩
      exact changes.iff_all fun field member => (fits compiled later isCompiled field member).1

/-! ## Patches of tasks -/

/-- The options of a class over a table. -/
def taskOptions : List Attribute :=
  [⟨"backend", .text "sqlite"⟩, ⟨"table", .text "tasks"⟩, ⟨"id", .text "id"⟩]

def titleField : ClassField where
  field := { name := "title", type := .text }

def bodyField : ClassField where
  field := { name := "body", type := .text }

def taskDefinition : ClassDefinition where
  name := "Task"
  path := "app.Task"
  moduleName := "app"
  marker := .options taskOptions
  fields := [{ field := { name := "id", type := .integer } }, titleField, bodyField]

theorem isOk_define_taskDefinition :
    (TableClass.define .standard none taskDefinition).outcome.isOk = true := by
  decide +kernel

def taskClass : TableClass :=
  .ofAccepted taskDefinition isOk_define_taskDefinition

def oldTask : Entity where
  table := taskClass
  fields := [("id", .int 1), ("title", .text "old"), ("body", .text "old")]

/-- The options of a patch of tasks. -/
def taskPatchOptions : List Attribute :=
  [⟨"table_name", .text "tasks"⟩, ⟨"table", .text "app.Task"⟩, ⟨"id", .text "id"⟩]

/-- What a patch of tasks is compiled from, and the path of its class. -/
def taskTarget : PatchTarget where
  declaration := ClassDefinition.declaration "TaskPatch" taskPatchOptions [titleField, bodyField]
  path := "app.Task"

/-- A patch of tasks that was defined before its class. -/
def taskPatch : PatchClass where
  name := "TaskPatch"
  path := "app.TaskPatch"
  fields := [titleField, bodyField]
  target := some taskTarget

def newTexts : PatchRow where
  patch := 0
  model := taskPatch.model
  fields := [("title", .text "new"), ("body", .text "new")]

def taskSession : Session where
  workspace := .standard
  classes :=
    { moduleName := "app"
      patches := [taskPatch]
      defined := [.table taskClass]
      modules := [("app", [("Task", .defined (.table taskClass))])] }
  connections := [("main", {})]
  held := [("task", .entity oldTask), ("change", .patch newTexts)]

theorem isDefined_taskClass : taskClass.IsDefined :=
  TableClass.isDefined_ofAccepted taskDefinition isOk_define_taskDefinition

theorem isAssignable_taskClass : taskClass.IsAssignable := by
  intro name member
  have names : taskClass.fieldNames = ["id", "title", "body"] := by decide +kernel
  rw [names] at member
  simp only [List.mem_cons, List.not_mem_nil, or_false] at member
  rcases member with rfl | rfl | rfl
  · rfl
  · rfl
  · rfl

/-- The patch of tasks uses the statement that it is compiled to with the class of tasks. -/
theorem usesOwn_newTexts
    {compiled : CompiledPatch}
    {later : Session}
    (isCompiled : (compiledPatch newTexts.patch).on taskSession = (.ok compiled, later)) :
    newTexts.UsesOwn compiled oldTask := by
  have isPatch : taskSession.classes.patch? newTexts.patch = some taskPatch := rfl
  have isTarget :
      (taskSession.classes.patchLayers taskPatch).findSome? PatchClass.target = some taskTarget :=
    rfl
  have leads : (taskSession.follow taskTarget.path).outcome = .ok (some (.table taskClass)) := by
    rw [Session.follow, Loader.importEntity_of_lookupEntity]
    rfl
  have isOwn := outcome_compileDeclared_of_on isPatch isTarget rfl leads isCompiled
  refine ⟨_, taskTarget.declaration, taskClass, rfl, List.suffix_rfl, ?_, isOwn⟩
  decide +kernel

/-- A patch that is compiled on its first use has changed both of its fields. -/
theorem changes_after_execution_task :
    ((taskSession.held.lookup "task" = some (.entity oldTask) ∧
          taskClass.IsDefined ∧ taskClass.IsAssignable) ∧
        taskSession.held.lookup "change" = some (.patch newTexts) ∧
        taskClass.Keeps (newTexts.fields.map Prod.fst) newTexts.fields ∧
        ∀ (compiled : CompiledPatch) (later : Session),
          (compiledPatch newTexts.patch).on taskSession = (.ok compiled, later) →
            newTexts.UsesOwn compiled oldTask) ∧
      ((perform "main" (.patch "task" "change")).on taskSession).1.isOk = true ∧
        taskSession.Changes "task" oldTask ["title", "body"] newTexts.fields
          ((perform "main" (.patch "task" "change")).on taskSession).2 := by
  have isHeld : taskSession.held.lookup "task" = some (.entity oldTask) := rfl
  have isPatch : taskSession.held.lookup "change" = some (.patch newTexts) := rfl
  have keeps : taskClass.Keeps (newTexts.fields.map Prod.fst) newTexts.fields :=
    TableClass.keeps_of_not_readsAssigned (by decide +kernel) _ _
  have usesOwn (compiled : CompiledPatch) (later : Session) :
      (compiledPatch newTexts.patch).on taskSession = (.ok compiled, later) →
        newTexts.UsesOwn compiled oldTask :=
    usesOwn_newTexts
  have succeeds : ((perform "main" (.patch "task" "change")).on taskSession).1.isOk = true := by
    decide +kernel
  rcases changes_after_execution "main" isHeld isDefined_taskClass isAssignable_taskClass with
    ⟨-, -, -, -, patching⟩
  have ends := ((patching "change" newTexts isPatch).2 keeps).1 usesOwn
  rcases ends.exists_gives succeeds with ⟨value, compiled, later, isCompiled, -, changesAll⟩
  exact
    ⟨⟨⟨isHeld, isDefined_taskClass, isAssignable_taskClass⟩, isPatch, keeps, usesOwn⟩, succeeds,
      changesAll⟩

/-- Patches of tasks extend patches of notes, and are defined before the class of tasks. -/
def inheritingOperations : List Operation :=
  [.defineTable {
      name := "Note"
      marker :=
        .options [⟨"backend", .text "sqlite"⟩, ⟨"table", .text "notes"⟩, ⟨"id", .text "id"⟩]
      fields := [{ field := { name := "id", type := .integer } }, titleField] },
    .definePatch {
      name := "TitlePatch"
      marker :=
        .options
          [⟨"table_name", .text "notes"⟩, ⟨"table", .text "app.Note"⟩, ⟨"id", .text "id"⟩,
            ⟨"backend", .text "sqlite"⟩]
      fields := [titleField] },
    .definePatch {
      name := "TaskPatch"
      base := some "TitlePatch"
      marker := .options taskPatchOptions
      fields := [bodyField] },
    .defineTable {
      name := "Task"
      marker := .options taskOptions
      fields := taskDefinition.fields },
    .create "Task" [("id", .int 1), ("title", .text "old"), ("body", .text "old")] (some "task"),
    .create "TaskPatch" [("title", .text "new"), ("body", .text "new")] (some "change")]

def inheritingSession : Session :=
  inheritingOperations.foldl
    (fun session performed => ((perform "main" performed).on session).2)
    { workspace := .standard, classes := { moduleName := "app" }, connections := [("main", {})] }

/-- The entity that is held under a name. -/
def entity? (session : Session) (name : String) : Option Entity :=
  match session.held.lookup name with
  | some (.entity found) => some found
  | _ => none

/-- The patch that is held under a name. -/
def patch? (session : Session) (name : String) : Option PatchRow :=
  match session.held.lookup name with
  | some (.patch found) => some found
  | _ => none

/-- The text in a field of the entity that is held under a name. -/
def textOf? (session : Session) (name field : String) : Option String :=
  (entity? session name).bind fun found => (found.fields.lookup field).bind Value.asText?

theorem lookup_of_entity?
    (isEntity : entity? session name = some entity) :
    session.held.lookup name = some (.entity entity) := by
  rw [entity?] at isEntity
  split at isEntity
  · rename_i found isFound
    cases isEntity
    exact isFound
  · cases isEntity

theorem lookup_of_patch?
    {row : PatchRow}
    (isPatch : patch? session name = some row) :
    session.held.lookup name = some (.patch row) := by
  rw [patch?] at isPatch
  split at isPatch
  · rename_i found isFound
    cases isPatch
    exact isFound
  · cases isPatch

/--
A patch that extends another uses the statement of that, although it belongs to another class: it
succeeds and leaves out the field that it adds.
-/
theorem not_changes_of_inherited_statement :
    ∃ (entity : Entity) (row : PatchRow),
      inheritingSession.held.lookup "task" = some (.entity entity) ∧
        inheritingSession.held.lookup "change" = some (.patch row) ∧
        entity.table.IsAssignable ∧
        inheritingSession.Targets row entity ∧
        ((perform "main" (.patch "task" "change")).on inheritingSession).1.isOk = true ∧
        ¬inheritingSession.Changes "task" entity (row.fields.map Prod.fst) row.fields
          ((perform "main" (.patch "task" "change")).on inheritingSession).2 := by
  have entityThere : (entity? inheritingSession "task").isSome = true := by decide +kernel
  have patchThere : (patch? inheritingSession "change").isSome = true := by decide +kernel
  have accepts :
      (entity? inheritingSession "task").all (fun found =>
        found.table.fieldNames.all fun field =>
          (found.table.model.checkAssignable field).isOk) = true := by
    decide +kernel
  have isNew :
      (patch? inheritingSession "change").all (fun found =>
        (found.fields.lookup "body").bind Value.asText? = some "new") = true := by
    decide +kernel
  have succeeds :
      ((perform "main" (.patch "task" "change")).on inheritingSession).1.isOk = true := by
    decide +kernel
  have isOld :
      textOf? ((perform "main" (.patch "task" "change")).on inheritingSession).2 "task" "body" =
        some "old" := by
    decide +kernel
  rcases Option.isSome_iff_exists.1 entityThere with ⟨entity, isEntity⟩
  rcases Option.isSome_iff_exists.1 patchThere with ⟨row, isRow⟩
  have isHeld := lookup_of_entity? isEntity
  have isPatch := lookup_of_patch? isRow
  rw [isEntity] at accepts
  rw [isRow] at isNew
  have bodyIsNew : (row.fields.lookup "body").bind Value.asText? = some "new" :=
    of_decide_eq_true isNew
  refine ⟨entity, row, isHeld, isPatch, ?_, ?_, succeeds, ?_⟩
  · intro field isField
    have isAccepted := List.all_eq_true.1 accepts field isField
    cases checked : entity.table.model.checkAssignable field with
    | error failure =>
        rw [checked] at isAccepted
        cases isAccepted
    | ok accepted => rfl
  · exact targets_of_isOk_patch isHeld isPatch succeeds
  · rintro ⟨changed, held, -, lookups⟩
    have isField : "body" ∈ row.fields.map Prod.fst := by
      rw [Entries.mem_map_fst_iff]
      cases found : row.fields.lookup "body" with
      | none =>
          rw [found] at bodyIsNew
          cases bodyIsNew
      | some value => rfl
    have body := lookups "body"
    rw [if_pos isField] at body
    rw [textOf?, entity?, held, Entries.lookup_put_self] at isOld
    have bodyIsOld : (changed.fields.lookup "body").bind Value.asText? = some "old" := isOld
    rw [body, bodyIsNew] at bodyIsOld
    exact absurd bodyIsOld (by decide)

end SessionAction

end SqlMapping
