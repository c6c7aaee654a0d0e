import SqlMapping.Proofs.Session.Holding

/-!
# What lasts through a run

The classes of a session change in few ways: a table class or a patch class is added, a patch class
is compiled on its first use, a module is loaded, and a name in a module leads elsewhere or nowhere.
The registered backends and what loads modules never change.  Everything else that is held, executed
or configured leaves all of them as they are.

The main statements say that a property of them which none of these changes breaks is broken by no
operation, and by no step of a run.
-/

namespace SqlMapping

/-- The classes of a session, the backends that they are compiled for, and what loads modules. -/
structure Catalogue where
  classes : Classes
  registry : Registry
  loader : Loader

/-- The classes of a session with all that decides how they change. -/
def Session.catalogue (session : Session) : Catalogue where
  classes := session.classes
  registry := session.workspace.registry
  loader := session.loader

namespace SessionAction

variable {α β γ ι : Type} {view : Session → γ}

/-! ## Actions that only look -/

theorem keeps_foldlM
    {step : β → ι → SessionAction β}
    (each : ∀ value item, Keeps view (step value item))
    (items : List ι)
    (value : β) :
    Keeps view (items.foldlM step value) := by
  induction items generalizing value with
  | nil => exact keeps_pure value
  | cons item rest inductionHypothesis =>
      rw [List.foldlM_cons]
      exact (each value item).bind inductionHypothesis

theorem keeps_mapM
    {each : ι → SessionAction β}
    (keeps : ∀ item, Keeps view (each item))
    (items : List ι) :
    Keeps view (items.mapM each) := by
  induction items with
  | nil => exact keeps_pure []
  | cons item rest inductionHypothesis =>
      rw [List.mapM_cons]
      refine (keeps item).bind fun value => ?_
      exact inductionHypothesis.bind fun values => keeps_pure _

theorem keeps_forIn
    {body : ι → PUnit → SessionAction (ForInStep PUnit)}
    (each : ∀ item state, Keeps view (body item state))
    (items : List ι) :
    Keeps view (forIn items PUnit.unit body) := by
  induction items with
  | nil => exact keeps_pure _
  | cons item rest inductionHypothesis =>
      rw [List.forIn_cons]
      refine (each item PUnit.unit).bind fun next => ?_
      cases next with
      | done state => exact keeps_pure _
      | yield state => exact inductionHypothesis

theorem keeps_held (name : String) : Keeps view (held name) :=
  keeps_get.bind fun seen => keeps_named seen.held name

theorem keeps_displayOf (object : Held) : Keeps view (displayOf object) :=
  keeps_get.bind fun _ => keeps_pure _

theorem keeps_patchClass (number : Nat) : Keeps view (patchClass number) := by
  refine keeps_get.bind fun seen => ?_
  cases seen.classes.patch? number with
  | none => exact keeps_throw _
  | some patch => exact keeps_pure patch

/-- What is done with a class is done with a table class or with a patch class. -/
theorem keeps_ofClass
    {identity : Nat}
    {next : DefinedClass → SessionAction α}
    (ofTable : ∀ table, Keeps view (next (.table table)))
    (ofPatch : ∀ number, Keeps view (next (.patch number))) :
    Keeps view (definedClass identity >>= next) := by
  refine (keeps_definedClass identity).bind fun found => ?_
  cases found with
  | table table => exact ofTable table
  | patch number => exact ofPatch number

theorem keeps_classIn (table : TableClass) (name : String) :
    Keeps view
      (match table.member? name with
        | some (.insert model) => pure (Held.insertModel (table.owner name) model)
        | some (.nested identity) => pure (.definedClass identity)
        | _ => throw (.missingMember name)) := by
  split
  · exact keeps_pure _
  · exact keeps_pure _
  · exact keeps_throw _

theorem keeps_memberClass (object : Held) (name : String) :
    Keeps view (memberClass object name) := by
  cases object with
  | entity found => exact keeps_classIn found.table name
  | definedClass identity =>
      exact keeps_ofClass (fun table => keeps_classIn table name) fun _ => keeps_throw _
  | _ => exact keeps_throw _

theorem keeps_atPath (path : String) : Keeps view (atPath path) :=
  (keeps_held _).bind fun root => keeps_foldlM keeps_memberClass _ root

theorem keeps_tableNamed (name : String) : Keeps view (tableNamed name) := by
  refine (keeps_held name).bind fun object => ?_
  cases object with
  | definedClass identity => exact keeps_ofClass keeps_pure fun _ => keeps_throw _
  | _ => exact keeps_throw _

theorem keeps_patchNumber (operation : String) (object : Held) :
    Keeps view (patchNumber operation object) := by
  cases object with
  | patch row => exact keeps_pure _
  | definedClass identity => exact keeps_ofClass (fun _ => keeps_throw _) keeps_pure
  | _ => exact keeps_throw _

theorem keeps_resolve (value : Value) : Keeps view (resolve value) := by
  refine Keeps.bind ?_ fun types => keeps_require _
  exact keeps_get.bind fun _ => keeps_pure _

theorem keeps_resolveMarker (marker : ClassMarker) : Keeps view (resolveMarker marker) := by
  cases marker with
  | absent => exact keeps_pure _
  | options attributes =>
      refine Keeps.bind (keeps_get.bind fun _ => keeps_pure _) fun types => ?_
      exact (keeps_require _).bind fun resolved => keeps_pure _
  | unusable value => exact (keeps_resolve value).bind fun _ => keeps_pure _

theorem keeps_baseTable (base : Option String) : Keeps view (baseTable base) := by
  cases base with
  | none => exact keeps_pure none
  | some name => exact (keeps_tableNamed name).map some

theorem keeps_targetOf (patch : PatchClass) : Keeps view (targetOf patch) := by
  refine keeps_get.bind fun seen => ?_
  cases (seen.classes.patchLayers patch).findSome? PatchClass.target with
  | none => exact keeps_throw _
  | some target => exact keeps_pure target

theorem keeps_isTarget (patch : PatchClass) (paths : List String) :
    Keeps view (isTarget patch paths) :=
  (keeps_targetOf patch).bind fun _ => keeps_pure _

theorem keeps_pathsOf (object : Held) : Keeps view (pathsOf object) := by
  refine keeps_get.bind fun seen => ?_
  cases object with
  | definedClass identity =>
      refine keeps_ofClass (fun _ => keeps_pure _) fun number => ?_
      exact (keeps_patchClass number).bind fun patch => keeps_pure _
  | insertModel table model => exact keeps_pure _
  | _ => exact keeps_throw _

theorem keeps_objectModel (object : Held) : Keeps view (objectModel object) := by
  cases object with
  | definedClass identity =>
      refine keeps_ofClass (fun _ => keeps_pure _) fun number => ?_
      exact (keeps_patchClass number).bind fun patch => keeps_pure _
  | insertModel table model => exact keeps_pure _
  | _ => exact keeps_throw _

theorem keeps_create (path : String) (values : List (String × Value)) :
    Keeps view (create path values) := by
  refine (keeps_atPath path).bind fun object => ?_
  refine (keeps_objectModel object).bind fun model => ?_
  exact (keeps_require _).bind fun _ => keeps_pure _

theorem keeps_patchFor (member : String) (arguments : List String) (name : String) :
    Keeps view (patchFor member arguments name) := by
  refine (keeps_held name).bind fun object => ?_
  refine (keeps_refuseField object member).bind fun _ => ?_
  cases object with
  | patch row => exact keeps_pure row
  | _ => exact (keeps_patchNumber _ _).bind fun _ => keeps_throw _

theorem keeps_outputOf (choice : OutputChoice) : Keeps view (outputOf choice) := by
  cases choice with
  | output found => exact keeps_pure found
  | className name =>
      refine (keeps_held name).bind fun object => ?_
      cases object with
      | definedClass identity =>
          exact (keeps_objectModel _).bind fun _ => keeps_pure _
      | _ => exact keeps_throw _

theorem keeps_describeHandle (connection : String) : Keeps view (describeHandle connection) := by
  refine keeps_get.bind fun seen => ?_
  refine (keeps_named _ _).bind fun handle => ?_
  exact (keeps_require _).bind fun _ => keeps_pure _

/-! ## Actions that leave the classes as they are -/

theorem ignoresConnections_catalogue : IgnoresConnections Session.catalogue :=
  fun _ _ _ => rfl

theorem keeps_setHeld (name : String) (object : Held) :
    Keeps Session.catalogue (setHeld name object) :=
  keeps_modify fun _ => rfl

theorem keeps_share (change : Sharing → Sharing) : Keeps Session.catalogue (share change) :=
  keeps_modify fun _ => rfl

theorem keeps_endStream (stream : HeldStream) : Keeps Session.catalogue (endStream stream) :=
  (keeps_through ignoresConnections_catalogue _ _).bind fun _ => keeps_pure _

theorem keeps_hold (name : Option String) (object : Held) :
    Keeps Session.catalogue (hold name object) := by
  cases name with
  | none => exact keeps_pure ()
  | some name =>
      refine keeps_get.bind fun seen => ?_
      refine (keeps_setHeld name object).bind fun _ => ?_
      refine Keeps.bind (keeps_modify fun _ => rfl) fun _ => ?_
      split
      · exact (keeps_endStream _).bind fun _ => keeps_pure ()
      · exact keeps_pure ()

theorem keeps_holdAssigned (name : String) (assigned : Assigned Entity) :
    Keeps Session.catalogue (holdAssigned name assigned) := by
  refine (keeps_setHeld _ _).bind fun _ => ?_
  refine Keeps.bind ?_ fun _ => keeps_require _
  apply keeps_forIn
  intro field _
  exact (keeps_share _).bind fun _ => keeps_pure _

theorem keeps_catalogue_callOnEntity
    (connection name : String)
    (entity : Entity)
    (call : TableCall)
    (arguments : List Value) :
    Keeps Session.catalogue (callOnEntity connection name entity call arguments) := by
  have acts {δ : Type} (action : Database δ) :
      Keeps Session.catalogue (through connection action) :=
    keeps_through ignoresConnections_catalogue _ _
  rw [callOnEntity.eq_def]
  split
  · exact (acts _).bind fun _ => keeps_pure _
  · refine (acts _).bind fun assigned => ?_
    exact (keeps_holdAssigned name assigned).bind fun _ => keeps_pure _
  · exact (acts _).bind fun _ => keeps_pure _
  · refine (acts _).bind fun changed => ?_
    refine (keeps_setHeld _ _).bind fun _ => ?_
    exact (keeps_share _).bind fun _ => keeps_pure _
  · exact (keeps_throw _).bind fun _ => keeps_pure _

theorem keeps_call
    (connection name : String)
    (object : Held)
    (member : String)
    (arguments : List Value) :
    Keeps Session.catalogue (call connection name object member arguments) := by
  cases object with
  | entity entity =>
      refine (keeps_refuseField _ member).bind fun _ => ?_
      apply keeps_callTable ignoresConnections_catalogue
      intro found call _ _
      exact keeps_catalogue_callOnEntity connection name found call arguments
  | definedClass identity =>
      exact
        keeps_call_definedClass ignoresConnections_catalogue connection name identity member
          arguments
  | _ => exact (keeps_refuseField _ member).bind fun _ => keeps_throw _

/-- Compiling a patch on its first use adds classes, its statement and notices, and nothing else. -/
theorem keeps_compiledPatch_of
    (unseenNotices :
      ∀ (session : Session) (notices : List Notice),
        view { session with notices := notices } = view session)
    (unseenClasses :
      ∀ (session : Session) (classes : Classes),
        view { session with classes := classes } = view session)
    (number : Nat) :
    Keeps view (compiledPatch number) := by
  refine keeps_get.bind fun seen => ?_
  refine (keeps_patchClass number).bind fun patch => ?_
  cases (seen.classes.patchLayers patch).findSome? PatchClass.compiled with
  | some compiled => exact keeps_pure compiled
  | none =>
      refine (keeps_targetOf patch).bind fun target => ?_
      have imports : Keeps view (importEntity target.path) := by
        intro session
        let loaded := session.loader.importEntity session.workspace session.classes target.path
        exact
          (unseenNotices { session with classes := loaded.classes } _).trans
            (unseenClasses session loaded.classes)
      refine imports.bind fun found => ?_
      cases found with
      | none => exact keeps_throw _
      | some found =>
          refine (keeps_ofReport unseenNotices _).bind fun compiled => ?_
          refine Keeps.bind (keeps_modify fun session => ?_) fun _ => keeps_pure compiled
          exact unseenClasses session _

theorem keeps_holdApplied
    (patchName objectName : String)
    (compiled : CompiledPatch)
    (rebuild : α → Held)
    (applied : Assigned α) :
    Keeps Session.catalogue (holdApplied patchName objectName compiled rebuild applied) := by
  refine (keeps_setHeld _ _).bind fun _ => ?_
  refine Keeps.bind ?_ fun _ => keeps_require _
  apply keeps_forIn
  intro field _
  split_ifs
  · exact (keeps_share _).bind fun _ => keeps_pure _
  · exact (keeps_share _).bind fun _ => keeps_pure _
  · exact keeps_pure _

theorem keeps_assign (name field : String) (value : Value) :
    Keeps Session.catalogue (assign name field value) := by
  refine (keeps_held name).bind fun object => ?_
  refine (keeps_require _).bind fun changed => ?_
  exact (keeps_setHeld name changed).bind fun _ => keeps_share _

theorem keeps_append (name field : String) (value : Value) :
    Keeps Session.catalogue (append name field value) := by
  refine (keeps_held name).bind fun object => ?_
  split
  · refine keeps_get.bind fun seen => ?_
    refine Keeps.bind ?_ fun _ => keeps_pure _
    apply keeps_forIn
    intro place _
    refine (keeps_held _).bind fun other => ?_
    exact (keeps_setHeld _ _).bind fun _ => keeps_pure _
  · exact keeps_throw _
  · exact keeps_throw _

theorem keeps_insert (connection rowName : String) (name : Option String) :
    Keeps Session.catalogue (insert connection rowName name) := by
  refine (keeps_held rowName).bind fun object => ?_
  refine (keeps_refuseField object "insert").bind fun _ => ?_
  cases object with
  | row row =>
      refine (keeps_through ignoresConnections_catalogue _ _).bind fun inserted => ?_
      refine (keeps_hold _ _).bind fun _ => ?_
      cases name with
      | none => exact keeps_pure _
      | some name =>
          refine Keeps.bind ?_ fun _ => keeps_pure _
          apply keeps_forIn
          intro field _
          split_ifs
          · exact (keeps_share _).bind fun _ => keeps_pure _
          · exact keeps_pure _
  | _ => exact keeps_throw _

theorem keeps_fetch
    (connection : String)
    (mode : FetchMode)
    (call : StatementCall)
    (output : Output) :
    Keeps Session.catalogue (fetch connection mode call output) :=
  keeps_through ignoresConnections_catalogue _ _

theorem keeps_holdStream (name : Option String) (connection : String) (stream : Stream Value) :
    Keeps Session.catalogue (holdStream name connection stream) := by
  refine keeps_get.bind fun seen => ?_
  exact (keeps_named _ _).bind fun _ => keeps_hold _ _

theorem keeps_next (name : String) (count : Nat) : Keeps Session.catalogue (next name count) := by
  refine (keeps_held name).bind fun object => ?_
  cases object with
  | stream source =>
      refine keeps_get.bind fun seen => ?_
      refine (keeps_through ignoresConnections_catalogue _ _).bind fun taken => ?_
      refine (keeps_setHeld _ _).bind fun _ => ?_
      exact (keeps_require _).bind fun _ => keeps_pure _
  | _ =>
      dsimp only
      split
      · exact keeps_pure _
      · exact keeps_throw _

theorem keeps_close (name : String) : Keeps Session.catalogue (close name) := by
  refine (keeps_held name).bind fun object => ?_
  refine (keeps_refuseField object "close").bind fun _ => ?_
  cases object with
  | stream source => exact (keeps_endStream source).bind fun _ => keeps_setHeld _ _
  | _ => exact keeps_throw _

theorem keeps_defineQuery (request : QueryRequest) (name : Option String) :
    Keeps Session.catalogue (defineQuery request name) := by
  refine (keeps_outputOf request.output).bind fun output => ?_
  refine keeps_get.bind fun seen => ?_
  split
  · exact keeps_throw _
  · exact keeps_throw _
  · exact keeps_throw _
  · exact keeps_throw _
  · exact (keeps_hold _ _).bind fun _ => keeps_pure _

theorem keeps_fetchQuery
    (connection queryName : String)
    (how : QueryFetch)
    (parameters : Query.Parameters)
    (name : Option String) :
    Keeps Session.catalogue (fetchQuery connection queryName how parameters name) := by
  refine (keeps_held queryName).bind fun object => ?_
  cases object with
  | query query =>
      refine (keeps_require _).bind fun selected => ?_
      cases how with
      | rows mode => exact keeps_fetch _ _ _ _
      | stream => exact (keeps_holdStream _ _ _).bind fun _ => keeps_pure _
  | _ => exact (keeps_refuseField _ _).bind fun _ => keeps_throw _

theorem keeps_callAt
    (connection path member : String)
    (arguments : List Value)
    (name : Option String) :
    Keeps Session.catalogue (callAt connection path member arguments name) := by
  refine (keeps_atPath path).bind fun object => ?_
  refine (keeps_call _ _ object _ _).bind fun found => ?_
  refine (keeps_hold name found).bind fun _ => ?_
  exact (keeps_displayOf found).bind fun _ => keeps_pure _

theorem keeps_callHeld (connection name member : String) (arguments : List Value) :
    Keeps Session.catalogue (callHeld connection name member arguments) := by
  refine (keeps_held name).bind fun object => ?_
  exact (keeps_call _ _ object _ _).bind fun _ => keeps_pure _

theorem keeps_openStream
    (connection path member : String)
    (arguments : List Value)
    (name : Option String) :
    Keeps Session.catalogue (openStream connection path member arguments name) := by
  refine (keeps_atPath path).bind fun object => ?_
  refine (keeps_call _ _ object _ _).bind fun found => ?_
  exact (keeps_hold name found).bind fun _ => keeps_pure _

theorem keeps_prepare (connection : String) (replies : Option (List Reply)) :
    Keeps Session.catalogue (prepare connection replies) := by
  cases replies with
  | none => exact keeps_pure ()
  | some replies =>
      refine keeps_get.bind fun seen => ?_
      exact (keeps_named _ _).bind fun found => keeps_modify fun _ => rfl

/-! ## Defining classes -/

variable {session : Session} {leaves : Session → Prop}

theorem ends_ofReport
    {report : Report α}
    {gives : α → Session → Prop}
    (left : leaves { session with notices := session.notices ++ report.notices })
    (given :
      ∀ value, report.outcome = .ok value →
        gives value { session with notices := session.notices ++ report.notices }) :
    Ends session leaves (ofReport report) gives := by
  rw [Ends, ofReport, on_ofFunction]
  cases outcome : report.outcome with
  | error error => exact left
  | ok value => exact given value outcome

/-- What holds of the layout of a session still holds after an action that keeps the layout. -/
theorem Keeps.ends_catalogue
    {action : SessionAction α}
    (keeps : Keeps Session.catalogue action) :
    Ends session (fun after => after.catalogue = session.catalogue) action
      fun _ after => after.catalogue = session.catalogue :=
  (keeps.ends session).mono (fun _ same => same) fun _ _ kept => kept.2

/-- The class that is held under a name is looked up for a name inside another class. -/
theorem keeps_nested (entry : String × String) :
    Keeps view
      (match entry with
        | (name, object) => do
          match ← held object with
          | .definedClass identity => return (name, identity)
          | _ => throw (.unknownName object)) := by
  refine (keeps_held entry.2).bind fun object => ?_
  cases object with
  | definedClass identity => exact keeps_pure _
  | _ => exact keeps_throw _

theorem keeps_definitionOf (request : ClassRequest) :
    Keeps Session.catalogue (definitionOf request) := by
  refine (keeps_resolveMarker request.marker).bind fun marker => ?_
  refine (keeps_mapM keeps_nested request.nested).bind fun nested => ?_
  exact keeps_get.bind fun _ => keeps_pure _

theorem ends_definitionOf (request : ClassRequest) :
    Ends session (fun after => after.catalogue = session.catalogue) (definitionOf request)
      fun definition after =>
        after.catalogue = session.catalogue ∧
          definition.name = request.name ∧
            definition.path =
              request.moduleName.getD session.classes.moduleName ++ "." ++ request.innerPath := by
  apply Ends.bind
  refine (keeps_resolveMarker request.marker).ends_catalogue.mono (fun _ same => same) ?_
  intro marker middle sameMiddle
  apply Ends.bind
  refine (keeps_mapM keeps_nested request.nested).ends_catalogue.mono ?_ ?_
  · exact fun _ same => same.trans sameMiddle
  intro nested after sameAfter
  apply Ends.bind
  apply ends_get
  apply ends_pure
  have same := sameAfter.trans sameMiddle
  have sameModule : after.classes.moduleName = session.classes.moduleName :=
    congrArg (fun catalogue => catalogue.classes.moduleName) same
  refine ⟨same, rfl, ?_⟩
  dsimp only
  rw [sameModule]

end SessionAction

/-- A class has the name and the path of its definition. -/
theorem TableClass.name_path_of_define
    {workspace : Workspace}
    {base : Option TableClass}
    {definition : ClassDefinition}
    {table : TableClass}
    (defined : (define workspace base definition).outcome = .ok table) :
    table.own.name = definition.name ∧ table.own.path = definition.path := by
  cases marker : definition.marker with
  | absent =>
      rw [define, marker] at defined
      cases defined
      exact ⟨rfl, rfl⟩
  | unusable value =>
      rw [define, marker] at defined
      cases defined
  | options attributes =>
      have compiling := defined
      rw [define, marker] at compiling
      rcases exists_generated_of_compile compiling with ⟨compiled, -, isCompiled, -⟩
      rcases exists_attributes_of_define defined isCompiled with ⟨_, -, -, -, isTable⟩
      rw [isTable]
      exact ⟨rfl, rfl⟩

namespace SessionAction

variable {α β : Type} {session : Session} {property : Session → Prop}

/-- An action after which a property of the session still holds, whatever its outcome. -/
def Preserves (property : Session → Prop) (action : SessionAction α) : Prop :=
  ∀ session : Session, property session →
    Ends session property action fun _ => property

theorem Preserves.bind
    {action : SessionAction α}
    {next : α → SessionAction β}
    (first : Preserves property action)
    (second : ∀ value, Preserves property (next value)) :
    Preserves property (action >>= next) := by
  intro session holds
  apply Ends.bind
  refine (first session holds).mono (fun _ left => left) ?_
  intro value after given
  exact second value after given

/-- What holds of the session after an action for either outcome holds however the action ends. -/
theorem preserves_of_snd
    {action : SessionAction α}
    (after : ∀ session : Session, property session → property (action.on session).2) :
    Preserves property action := by
  intro session holds
  have held := after session holds
  rw [Ends]
  generalize action.on session = outcome at held
  rcases outcome with ⟨outcome, last⟩
  cases outcome with
  | error failure => exact held
  | ok value => exact held

theorem Preserves.snd
    {action : SessionAction α}
    (preserves : Preserves property action)
    {session : Session}
    (holds : property session) :
    property (action.on session).2 :=
  (preserves session holds).snd

theorem Preserves.outcomeOf
    {action : SessionAction α}
    (preserves : Preserves property action) :
    Preserves property (outcomeOf action) :=
  preserves_of_snd fun _ holds => preserves.snd holds

end SessionAction

/--
A property of a session that depends on its classes, its registered backends and what loads modules
only, and that neither adding a class nor compiling a patch class nor loading a module breaks.
-/
structure Session.IsLasting (property : Session → Prop) : Prop where
  ofCatalogue
      {before after : Session}
      (holds : property before)
      (same : after.catalogue = before.catalogue) :
      property after
  /-- A table class may be reached under its name in a module. -/
  tableAdded
      {session : Session}
      {table : TableClass}
      (moduleName : String)
      (isHidden : Bool)
      (holds : property session)
      (lies : isHidden = false → table.own.path = moduleName ++ "." ++ table.own.name) :
      property
        { session with
          classes := session.classes.add moduleName table.own.name isHidden (.table table) }
  patchAdded
      {session : Session}
      (patch : PatchClass)
      (holds : property session) :
      property
        { session with
          classes := { session.classes with patches := session.classes.patches ++ [patch] } }
  /-- A patch class may be reached under a name in a module. -/
  patchPublished
      {session : Session}
      (moduleName name : String)
      (isHidden : Bool)
      (number : Nat)
      (holds : property session) :
      property
        { session with classes := session.classes.add moduleName name isHidden (.patch number) }
  /-- A patch class is compiled only while it has no statement of its own. -/
  patchCompiled
      {session : Session}
      {number : Nat}
      {patch : PatchClass}
      (compiled : CompiledPatch)
      (holds : property session)
      (isPatch : session.classes.patch? number = some patch)
      (isFirst : patch.compiled = none) :
      property
        { session with
          classes := session.classes.setPatch number { patch with compiled := some compiled } }
  /-- A module is loaded, or its code fails. -/
  loaded
      {session : Session}
      (name : String)
      (holds : property session) :
      property
        { session with
          classes := (session.loader.load session.workspace session.classes name).classes }
  unbound
      {session : Session}
      (moduleName name : String)
      (holds : property session) :
      property { session with classes := session.classes.unbind moduleName name }

namespace SessionAction

open Session (IsLasting)

variable {α : Type} {session : Session} {property : Session → Prop}

theorem Keeps.preserves
    {action : SessionAction α}
    (keeps : Keeps Session.catalogue action)
    (lasts : IsLasting property) :
    Preserves property action :=
  preserves_of_snd fun session holds => lasts.ofCatalogue holds (keeps session)

/-! ## Loading modules -/

theorem holds_importModule
    (lasts : IsLasting property)
    (holds : property session)
    (name : String) :
    property
      { session with
        classes :=
          (session.loader.importModule session.workspace session.classes name).classes } := by
  rw [Loader.importModule]
  split
  · exact holds
  · split
    · exact holds
    · exact lasts.loaded name holds

theorem holds_searchPlaces
    (lasts : IsLasting property)
    (holds : property session)
    (places : List (String × List String)) :
    property
      { session with
        classes :=
          (session.loader.searchPlaces session.workspace session.classes places).classes } := by
  induction places generalizing session with
  | nil => exact holds
  | cons place rest inductionHypothesis =>
      have imported := holds_importModule lasts holds place.1
      rw [Loader.searchPlaces]
      dsimp only
      split
      · exact imported
      · split
        · exact inductionHypothesis imported
        · exact imported

theorem holds_importEntity
    (lasts : IsLasting property)
    (holds : property session)
    (path : String) :
    property
      { session with
        classes :=
          (session.loader.importEntity session.workspace session.classes path).classes } := by
  rw [Loader.importEntity]
  cases session.classes.lookupEntity path with
  | some found => exact holds
  | none => exact holds_searchPlaces lasts holds _

theorem ends_importEntity
    (lasts : IsLasting property)
    (holds : property session)
    (path : String) :
    Ends session property (importEntity path) fun _ after =>
      property after ∧ session.classes.IsExtendedBy after.classes := by
  have imported := holds_importEntity lasts holds path
  rw [Ends, importEntity, ofLoading, on_ofFunction]
  dsimp only
  cases (session.loader.importEntity session.workspace session.classes path).outcome with
  | error fault => exact lasts.ofCatalogue imported rfl
  | ok found =>
      exact ⟨lasts.ofCatalogue imported rfl, Loader.isExtendedBy_importEntity path⟩

theorem preserves_importModule (lasts : IsLasting property) (name : String) :
    Preserves property (importModule name) :=
  preserves_of_snd fun _ holds => lasts.ofCatalogue (holds_importModule lasts holds name) rfl

/-! ## Compiling patches -/

/-- Loading modules leaves a patch class as it is, under its number. -/
theorem patch?_of_isExtendedBy
    {before after : Classes}
    {number : Nat}
    {patch : PatchClass}
    (isExtended : before.IsExtendedBy after)
    (isPatch : before.patch? number = some patch) :
    after.patch? number = some patch := by
  rcases isExtended.patches with ⟨added, patches⟩
  rw [Classes.patch?, ← patches]
  exact (List.getElem?_append_left (List.getElem?_eq_some_iff.1 isPatch).1).trans isPatch

theorem preserves_compiledPatch (lasts : IsLasting property) (number : Nat) :
    Preserves property (compiledPatch number) := by
  intro session holds
  apply Ends.bind
  apply ends_get
  apply Ends.bind
  apply Ends.bind
  apply ends_get
  cases isPatch : session.classes.patch? number with
  | none => exact ends_throw holds
  | some patch =>
      apply ends_pure
      cases isFirst : (session.classes.patchLayers patch).findSome? PatchClass.compiled with
      | some compiled => exact ends_pure holds
      | none =>
          have uncompiled : patch.compiled = none :=
            List.findSome?_eq_none_iff.1 isFirst patch List.mem_cons_self
          apply Ends.bind
          apply Ends.bind
          apply ends_get
          cases (session.classes.patchLayers patch).findSome? PatchClass.target with
          | none => exact ends_throw holds
          | some target =>
              apply ends_pure
              apply Ends.bind
              refine (ends_importEntity lasts holds target.path).mono (fun _ left => left) ?_
              rintro found after ⟨afterHolds, isExtended⟩
              cases found with
              | none => exact ends_throw afterHolds
              | some found =>
                  let report :=
                    Classes.compileDeclared session.workspace target.declaration found
                  have noticed :
                      property { after with notices := after.notices ++ report.notices } :=
                    lasts.ofCatalogue afterHolds rfl
                  apply Ends.bind
                  apply ends_ofReport noticed
                  intro compiled _
                  exact
                    lasts.patchCompiled compiled noticed
                      (patch?_of_isExtendedBy isExtended isPatch) uncompiled

theorem preserves_patchEntity
    (lasts : IsLasting property)
    (connection objectName : String)
    (entity : Entity)
    (patchName : String) :
    Preserves property (patchEntity connection objectName entity patchName) := by
  refine ((keeps_held patchName).preserves lasts).bind fun given => ?_
  refine ((keeps_refuseField given "targets").preserves lasts).bind fun _ => ?_
  refine (keeps_get.preserves lasts).bind fun seen => ?_
  refine ((keeps_patchNumber "targets" given).preserves lasts).bind fun number => ?_
  refine ((keeps_patchClass number).preserves lasts).bind fun patch => ?_
  refine ((keeps_isTarget patch _).preserves lasts).bind fun belongs => ?_
  cases given with
  | patch row =>
      have writes :
          Preserves property (do
            let compiled ← compiledPatch row.patch
            let applied ← through connection (entity.patch row patch.name compiled)
            holdApplied patchName objectName compiled .entity applied) := by
        refine (preserves_compiledPatch lasts row.patch).bind fun compiled => ?_
        refine Keeps.preserves ?_ lasts
        refine (keeps_through ignoresConnections_catalogue _ _).bind fun applied => ?_
        exact keeps_holdApplied _ _ _ _ applied
      cases belongs with
      | true => exact writes
      | false => exact ((keeps_throw _).preserves lasts).bind fun _ => writes
  | _ =>
      cases belongs with
      | true => exact (keeps_throw _).preserves lasts
      | false =>
          exact ((keeps_throw _).preserves lasts).bind fun _ => (keeps_throw _).preserves lasts

/-! ## Defining classes -/

theorem preserves_holdClass
    {home : Option String}
    {name : String}
    {isHidden : Bool}
    {entry : DefinedClass}
    (lasts : IsLasting property)
    (added :
      property
        { session with
          classes :=
            session.classes.add (home.getD session.classes.moduleName) name isHidden entry }) :
    Ends session property (holdClass home name isHidden entry) fun _ => property := by
  apply Ends.bind
  apply ends_get
  apply Ends.bind
  apply ends_modify
  exact (keeps_hold _ _).preserves lasts _ added

/-- A class that can be made is held in its module under its name. -/
theorem ends_made_holdTable
    {report : Report (Except FieldFault TableClass)}
    {definition : ClassDefinition}
    {home : Option String}
    {isHidden : Bool}
    (lasts : IsLasting property)
    (holds : property session)
    (isDefined :
      ∀ table : TableClass, report.outcome = .ok (.ok table) →
        table.own.name = definition.name ∧ table.own.path = definition.path)
    (lies :
      isHidden = false →
        definition.path = home.getD session.classes.moduleName ++ "." ++ definition.name) :
    Ends session property (made report >>= fun table => holdTable home table isHidden)
      fun _ => property := by
  have noticed : property { session with notices := session.notices ++ report.notices } :=
    lasts.ofCatalogue holds rfl
  apply Ends.bind
  apply Ends.bind
  apply ends_ofReport noticed
  intro making isMade
  apply ends_require noticed
  intro table isOk
  rw [Outcome.mapError_eq_ok_iff] at isOk
  subst isOk
  rcases isDefined table isMade with ⟨name, path⟩
  apply Ends.bind
  refine (preserves_holdClass lasts ?_).mono (fun _ left => left) ?_
  · refine lasts.tableAdded _ isHidden noticed fun isPublished => ?_
    rw [name, path]
    exact lies isPublished
  · intro _ after given
    exact given

theorem preserves_defineTable (lasts : IsLasting property) (request : ClassRequest) :
    Preserves property (defineTable request) := by
  intro session holds
  apply Ends.bind
  refine (keeps_baseTable request.base).ends_catalogue.mono ?_ ?_
  · exact fun _ same => lasts.ofCatalogue holds same
  intro base middle sameMiddle
  apply Ends.bind
  refine (ends_definitionOf request).mono ?_ ?_
  · exact fun _ same => lasts.ofCatalogue holds (same.trans sameMiddle)
  rintro definition after ⟨sameAfter, name, path⟩
  have stays : property after := lasts.ofCatalogue holds (sameAfter.trans sameMiddle)
  apply Ends.bind
  apply ends_get
  apply Ends.bind
  apply ends_require stays
  intro _ _
  have isDefined
      (table : TableClass)
      (isMade : (TableClass.create after.workspace base definition).outcome = .ok (.ok table)) :
      table.own.name = definition.name ∧ table.own.path = definition.path :=
    TableClass.name_path_of_define (TableClass.define_of_create isMade)
  refine ends_made_holdTable lasts stays isDefined fun isPublished => ?_
  -- A class inside another one is not reached under its name alone.
  have noOuter : request.outerName = none :=
    Option.isNone_iff_eq_none.1
      (Option.isSome_eq_false_iff.1 (Bool.or_eq_false_iff.1 isPublished).2)
  rw [name, path, ClassRequest.innerPath, noOuter,
    show after.classes = middle.classes from congrArg Catalogue.classes sameAfter]
  rfl

theorem preserves_defineDeclared
    (lasts : IsLasting property)
    (data : Value)
    (base : Option String)
    (isHidden : Bool) :
    Preserves property (defineDeclared data base isHidden) := by
  intro session holds
  apply Ends.bind
  refine ((keeps_resolve data).preserves lasts session holds).mono (fun _ left => left) ?_
  intro resolved first firstHolds
  apply Ends.bind
  apply ends_require firstHolds
  intro declaration _
  apply Ends.bind
  refine ((keeps_baseTable base).preserves lasts first firstHolds).mono (fun _ left => left) ?_
  intro table after stays
  apply Ends.bind
  apply ends_get
  apply Ends.bind
  apply ends_require stays
  intro report isReport
  rw [Outcome.mapError_eq_ok_iff, TableClass.declare, Outcome.bind_eq_ok_iff] at isReport
  rcases isReport with ⟨-, -, ⟨⟩⟩
  have isDefined
      (made : TableClass)
      (isMade :
        (TableClass.create after.workspace table
          (.ofDeclaration after.classes.moduleName after.classes.style declaration)).outcome =
            .ok (.ok made)) :=
    TableClass.name_path_of_define (TableClass.define_of_create isMade)
  exact ends_made_holdTable lasts stays isDefined fun _ => rfl

theorem keeps_compileDefined (patch : PatchClass) (attributes : List Attribute) :
    Keeps Session.catalogue (compileDefined patch attributes) := by
  refine keeps_get.bind fun seen => ?_
  refine (keeps_require _).bind fun path => ?_
  exact (keeps_ofReport (fun _ _ => rfl) _).bind fun compiled => keeps_pure _

/-- Add a patch class to the session and hold it under its name; `home` is the module it is in. -/
def addPatch (home : Option String) (isHidden : Bool) (patch : PatchClass) :
    SessionAction StepResult := do
  let number := (← get).classes.patches.length
  modify fun session => { session with
    classes := { session.classes with patches := session.classes.patches ++ [patch] } }
  holdClass home patch.name isHidden (.patch number)
  return .patch patch

theorem preserves_addPatch
    (lasts : IsLasting property)
    (home : Option String)
    (isHidden : Bool)
    (patch : PatchClass) :
    Preserves property (addPatch home isHidden patch) := by
  refine (keeps_get.preserves lasts).bind fun seen => ?_
  refine Preserves.bind ?_ fun _ => ?_
  · exact fun session holds => lasts.patchAdded patch holds
  refine Preserves.bind ?_ fun _ => (keeps_pure _).preserves lasts
  exact fun session holds =>
    preserves_holdClass lasts (lasts.patchPublished _ _ isHidden _ holds)

theorem preserves_extending
    (lasts : IsLasting property)
    {rest : Option Nat → SessionAction StepResult}
    (preserves : ∀ base, Preserves property (rest base))
    (extended : Option String) :
    Preserves property
      (match extended with
        | none => pure none >>= rest
        | some name => held name >>= fun base => some <$> patchNumber name base >>= rest) := by
  cases extended with
  | none => exact preserves none
  | some name =>
      refine ((keeps_held name).preserves lasts).bind fun base => ?_
      exact (((keeps_patchNumber name base).map some).preserves lasts).bind preserves

theorem preserves_definePatch (lasts : IsLasting property) (request : ClassRequest) :
    Preserves property (definePatch request) := by
  have adds := preserves_addPatch lasts request.moduleName request.isUnbound
  refine preserves_extending lasts (fun base => ?_) request.base
  refine ((keeps_definitionOf request).preserves lasts).bind fun definition => ?_
  refine (keeps_get.preserves lasts).bind fun seen => ?_
  refine ((keeps_require _).preserves lasts).bind fun _ => ?_
  cases definition.marker with
  | absent => exact ((keeps_pure _).preserves lasts).bind adds
  | unusable value => exact ((keeps_throw _).preserves lasts).bind adds
  | options attributes => exact ((keeps_compileDefined _ attributes).preserves lasts).bind adds

/-! ## Names in modules -/

theorem keeps_namesOf (moduleName : String) : Keeps view (namesOf moduleName) :=
  keeps_get.bind fun seen => keeps_named seen.classes.modules moduleName

theorem preserves_unbind (lasts : IsLasting property) (moduleName name : String) :
    Preserves property (unbind moduleName name) := by
  refine ((keeps_namesOf moduleName).preserves lasts).bind fun names => ?_
  cases names.lookup name with
  | some thing => exact fun session holds => lasts.unbound moduleName name holds
  | none => exact (keeps_throw _).preserves lasts

/-! ## Whole runs -/

/-- No operation breaks a lasting property, if those do not that bind names to classes. -/
theorem preserves_perform
    (lasts : IsLasting property)
    (connection : String)
    (performed : Operation)
    (binds :
      ∀ moduleName name object,
        performed = .bind moduleName name object →
          Preserves property (SessionAction.bind moduleName name object)) :
    Preserves property (perform connection performed) := by
  cases performed with
  | bind moduleName name object =>
      exact (binds moduleName name object rfl).bind fun _ => (keeps_pure _).preserves lasts
  | unbind moduleName name =>
      exact (preserves_unbind lasts moduleName name).bind fun _ => (keeps_pure _).preserves lasts
  | importModule moduleName =>
      refine (preserves_importModule lasts moduleName).bind fun _ => ?_
      exact (keeps_pure _).preserves lasts
  | defineDeclared declaration base isHidden => exact preserves_defineDeclared lasts _ _ _
  | defineTable request => exact preserves_defineTable lasts request
  | definePatch request => exact preserves_definePatch lasts request
  | create path values name =>
      refine Keeps.preserves ?_ lasts
      refine (keeps_create path values).bind fun created => ?_
      refine (keeps_hold name created).bind fun _ => ?_
      exact (keeps_displayOf created).bind fun _ => keeps_pure _
  | display name =>
      refine Keeps.preserves ?_ lasts
      refine (keeps_held name).bind fun object => ?_
      exact (keeps_displayOf object).bind fun _ => keeps_pure _
  | assign name field value =>
      exact ((keeps_assign name field value).bind fun _ => keeps_pure _).preserves lasts
  | append name field value =>
      exact ((keeps_append name field value).bind fun _ => keeps_pure _).preserves lasts
  | insert row name => exact (keeps_insert connection row name).preserves lasts
  | get path identifier name => exact (keeps_callAt connection path _ _ name).preserves lasts
  | all path => exact (keeps_callAt connection path _ _ none).preserves lasts
  | stream path page name =>
      cases page with
      | none => exact (keeps_openStream connection path _ _ name).preserves lasts
      | some page => exact (keeps_openStream connection path _ _ name).preserves lasts
  | next name count => exact ((keeps_next name count).bind fun _ => keeps_pure _).preserves lasts
  | close name => exact ((keeps_close name).bind fun _ => keeps_pure _).preserves lasts
  | update name => exact (keeps_callHeld connection name _ _).preserves lasts
  | delete name => exact (keeps_callHeld connection name _ _).preserves lasts
  | reload name => exact (keeps_callHeld connection name _ _).preserves lasts
  | deleteRow path identifier => exact (keeps_callAt connection path _ _ none).preserves lasts
  | lookup path member argument name =>
      exact (keeps_callAt connection path _ _ name).preserves lasts
  | set name member value => exact (keeps_callHeld connection name member _).preserves lasts
  | patch name patchName =>
      refine ((keeps_held name).preserves lasts).bind fun object => ?_
      refine ((keeps_refuseField object "patch").preserves lasts).bind fun _ => ?_
      cases object with
      | entity entity =>
          refine (preserves_patchEntity lasts connection name entity patchName).bind fun _ => ?_
          exact (keeps_pure _).preserves lasts
      | _ => exact ((keeps_call _ _ _ _ _).bind fun _ => keeps_pure _).preserves lasts
  | patchRow patchName identifier =>
      refine ((keeps_patchFor _ _ patchName).preserves lasts).bind fun row => ?_
      refine (preserves_compiledPatch lasts row.patch).bind fun compiled => Keeps.preserves ?_ lasts
      exact (keeps_through ignoresConnections_catalogue _ _).bind fun _ => keeps_pure _
  | applyPatch patchName name =>
      refine ((keeps_patchFor _ _ patchName).preserves lasts).bind fun row => ?_
      refine ((keeps_held name).preserves lasts).bind fun target => ?_
      refine (preserves_compiledPatch lasts row.patch).bind fun compiled => Keeps.preserves ?_ lasts
      exact (keeps_holdApplied _ _ _ _ _).bind fun _ => keeps_pure _
  | targets patchName path =>
      refine Keeps.preserves ?_ lasts
      refine (keeps_held patchName).bind fun given => ?_
      refine (keeps_refuseField given "targets").bind fun _ => ?_
      refine (keeps_patchNumber "targets" given).bind fun number => ?_
      refine (keeps_patchClass number).bind fun patch => ?_
      refine (keeps_atPath path).bind fun object => ?_
      refine (keeps_pathsOf object).bind fun paths => ?_
      exact (keeps_isTarget patch paths).bind fun _ => keeps_pure _
  | compiled patchName =>
      refine ((keeps_held patchName).preserves lasts).bind fun given => ?_
      refine ((keeps_refuseField given "compiled").preserves lasts).bind fun _ => ?_
      refine ((keeps_patchNumber "compiled" given).preserves lasts).bind fun number => ?_
      refine (preserves_compiledPatch lasts number).bind fun _ => ?_
      exact (keeps_pure _).preserves lasts
  | execute call =>
      refine Keeps.preserves ?_ lasts
      exact (keeps_through ignoresConnections_catalogue _ _).bind fun _ => keeps_pure _
  | fetch mode call output =>
      refine Keeps.preserves ?_ lasts
      refine (keeps_outputOf output).bind fun output => ?_
      exact (keeps_fetch connection mode call output).bind fun _ => keeps_pure _
  | streamRows request output name =>
      refine Keeps.preserves ?_ lasts
      refine (keeps_outputOf output).bind fun output => ?_
      exact (keeps_holdStream name connection _).bind fun _ => keeps_pure _
  | fetchRow call =>
      refine Keeps.preserves ?_ lasts
      exact (keeps_through ignoresConnections_catalogue _ _).bind fun _ => keeps_pure _
  | handle => exact (keeps_describeHandle connection).preserves lasts
  | setConnection change =>
      refine Keeps.preserves (keeps_get.bind fun seen => ?_) lasts
      refine (keeps_named _ _).bind fun found => ?_
      exact Keeps.bind (keeps_modify fun _ => rfl) fun _ => keeps_pure _
  | configure change =>
      intro session holds
      apply Ends.bind
      apply ends_get
      apply Ends.bind
      apply ends_require holds
      intro settings _
      exact lasts.ofCatalogue holds rfl
  | query request name =>
      exact ((keeps_defineQuery request name).bind fun _ => keeps_pure _).preserves lasts
  | fetchQuery query how parameters name =>
      refine Keeps.preserves ?_ lasts
      exact (keeps_fetchQuery connection query how parameters name).bind fun _ => keeps_pure _
  | refused failure => exact (keeps_throw failure).preserves lasts

theorem preserves_prepare
    (lasts : IsLasting property)
    (connection : String)
    (replies : Option (List Reply)) :
    Preserves property (prepare connection replies) :=
  (keeps_prepare connection replies).preserves lasts

theorem preserves_through
    (lasts : IsLasting property)
    (connection : String)
    (action : Database α) :
    Preserves property (through connection action) :=
  (keeps_through ignoresConnections_catalogue connection action).preserves lasts

end SessionAction

mutual

/-- The operations in a step. -/
def Step.operations : Step → List Operation
  | .operation _ _ performed => [performed]
  | .work _ _ _ steps _ => operationsOf steps

/-- The operations in some steps. -/
def operationsOf : List Step → List Operation
  | [] => []
  | step :: rest => step.operations ++ operationsOf rest

end

namespace SessionAction

variable {property : Session → Prop}

mutual

/-- What the parts of a step preserve is preserved by the step. -/
theorem preserves_run
    (prepares : ∀ connection replies, Preserves property (prepare connection replies))
    (acts :
      ∀ {β : Type} (connection : String) (action : Database β),
        Preserves property (through connection action))
    (step : Step)
    (performs :
      ∀ connection, ∀ performed ∈ step.operations,
        Preserves property (perform connection performed)) :
    Preserves property (run step) := by
  cases step with
  | operation connection replies performed =>
      refine (prepares connection replies).bind fun _ => ?_
      exact performs connection performed (by simp [Step.operations])
  | work connection replies beginSql steps fault =>
      refine (prepares connection replies).bind fun _ => ?_
      refine (acts connection _).bind fun transaction => ?_
      refine Preserves.bind ?_ fun outcome => acts connection _
      refine Preserves.outcomeOf ?_
      refine (preserves_runAll prepares acts steps ?_).bind fun results => ?_
      · exact fun connection performed member =>
          performs connection performed (by rwa [Step.operations])
      · exact preserves_of_snd fun _ holds => holds

theorem preserves_runAll
    (prepares : ∀ connection replies, Preserves property (prepare connection replies))
    (acts :
      ∀ {β : Type} (connection : String) (action : Database β),
        Preserves property (through connection action))
    (steps : List Step)
    (performs :
      ∀ connection, ∀ performed ∈ operationsOf steps,
        Preserves property (perform connection performed)) :
    Preserves property (runAll steps) := by
  cases steps with
  | nil => exact preserves_of_snd fun _ holds => holds
  | cons step rest =>
      rw [operationsOf] at performs
      refine (preserves_run prepares acts step fun connection performed member =>
        performs connection performed (List.mem_append_left _ member)).bind fun result => ?_
      refine (preserves_runAll prepares acts rest fun connection performed member =>
        performs connection performed (List.mem_append_right _ member)).bind fun results => ?_
      exact preserves_of_snd fun _ holds => holds

end

end SessionAction

end SqlMapping
