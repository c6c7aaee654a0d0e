import SqlMapping.Session.Call
import SqlMapping.Session.Step

/-!
# Running sessions

Every step gives a result or a failure.  What it did to the session before a failure stays:
events, notices, classes that were compiled, and fields that were assigned.
-/

namespace SqlMapping

namespace SessionAction

/-! ## Classes -/

/-- The types that names of classes stand for. -/
def classTypes : SessionAction (String → Option TypeRef) := do
  let session ← get
  return fun name =>
    match session.held.lookup name with
    | some (.definedClass identity) => some (session.classes.typeOf identity)
    | _ => none

/-- Replace the names of classes in a value by the classes. -/
def resolve (value : Value) : SessionAction Value := do
  require (Classes.resolveNames (← classTypes) value)

/-- Replace the names of classes in the options of a class. -/
def resolveMarker (marker : ClassMarker) : SessionAction ClassMarker := do
  match marker with
  | .absent => return .absent
  | .options attributes =>
    let types ← classTypes
    let resolved ← require (attributes.mapM fun option => do
      let value ← Classes.resolveNames types option.value
      return ({ option with value := value } : Attribute))
    return .options resolved
  | .unusable value => return .unusable (← resolve value)

/-- The definition that a step asks for. -/
def definitionOf (request : ClassRequest) : SessionAction ClassDefinition := do
  let marker ← resolveMarker request.marker
  let nested ← request.nested.mapM fun (name, object) => do
    match ← held object with
    | .definedClass identity => return (name, identity)
    | _ => throw (.unknownName object)
  let classes := (← get).classes
  let moduleName := request.moduleName.getD classes.moduleName
  return {
    name := request.name
    path := moduleName ++ "." ++ request.innerPath
    moduleName := moduleName
    marker := marker
    fields := request.fields
    methods := request.methods
    nested := nested
    config := request.config
    style := classes.style }

/-- The class that a step extends. -/
def baseTable : Option String → SessionAction (Option TableClass)
  | none => pure none
  | some name => some <$> tableNamed name

/-- Add a class to the session and hold it under its name; `home` is the module it is in. -/
def holdClass (home : Option String) (name : String) (isHidden : Bool) (entry : DefinedClass) :
    SessionAction Unit := do
  let identity := (← get).classes.defined.length
  modify fun session => { session with
    classes :=
      session.classes.add (home.getD session.classes.moduleName) name isHidden entry }
  hold (some name) (.definedClass identity)

/-- Hold a table class under its name. -/
def holdTable (home : Option String) (table : TableClass) (isHidden : Bool) :
    SessionAction StepResult := do
  holdClass home table.name isHidden (.table table)
  return .table table

/-- The class that a report gives, unless it is refused or cannot be made. -/
def made (report : Report (Except FieldFault TableClass)) : SessionAction TableClass := do
  require ((← ofReport report).mapError .unusableField)

/-- The path of the class that a table class extends. -/
def pathOver (classes : Classes) (base : Option TableClass) : String :=
  (base.map fun table => table.own.path).getD (classes.rootPaths.headD "")

/-- Define the table class of a declaration. -/
def defineDeclared (data : Value) (base : Option String) (isHidden : Bool) :
    SessionAction StepResult := do
  let resolved ← resolve data
  let declaration ← require ((Declaration.ofValue resolved).mapError .invalid)
  let base ← baseTable base
  let session ← get
  let report ← require
    ((TableClass.declare session.workspace base (pathOver session.classes base)
      session.classes.moduleName session.classes.style declaration).mapError .unusableField)
  let table ← made report
  holdTable none table isHidden

/-- Define a table class. -/
def defineTable (request : ClassRequest) : SessionAction StepResult := do
  let base ← baseTable request.base
  let definition ← definitionOf request
  let session ← get
  let config := definition.configOver ((base.map fun table => table.own.config).getD [])
  require ((ClassField.checkFields (ModelConfig.ofEntries config).acceptsForeign request.name
    (pathOver session.classes base) request.fields).mapError .unusableField)
  let table ← made (TableClass.create session.workspace base definition)
  holdTable request.moduleName table request.isUnbound

/-- The target and the compiled statement of a patch class with some options. -/
def compileDefined (patch : PatchClass) (attributes : List Attribute) :
    SessionAction PatchClass := do
  let session ← get
  let declaration := ClassDefinition.declaration patch.name attributes patch.fields
  let path ← require (Classes.targetPath (Classes.targetOption? declaration))
  let compiled ← ofReport
    (Classes.compileEarly session.workspace session.classes declaration)
  return { patch with target := some ⟨declaration, path⟩, compiled := compiled }

/-- Define a patch class. -/
def definePatch (request : ClassRequest) : SessionAction StepResult := do
  let base ← match request.base with
    | none => pure none
    | some name => do
      let extended ← held name
      some <$> patchNumber name extended
  let definition ← definitionOf request
  let classes := (← get).classes
  let path := ((base.bind classes.patch?).map PatchClass.path).getD classes.patchRoot
  let bare := classes.patchOfDefinition base definition
  require ((ClassField.checkFields bare.model.config.acceptsForeign request.name path
    request.fields).mapError .unusableField)
  let patch ← match definition.marker with
    | .absent => pure bare
    | .unusable value => throw (.refused (ClassDefinition.unusableMarker bare.name value))
    | .options attributes => compileDefined bare attributes
  let number := (← get).classes.patches.length
  modify fun session => { session with
    classes := { session.classes with patches := session.classes.patches ++ [patch] } }
  holdClass request.moduleName patch.name request.isUnbound (.patch number)
  return .patch patch

/-- The target of a patch class, its own or inherited. -/
def targetOf (patch : PatchClass) : SessionAction PatchTarget := do
  match ((← get).classes.patchLayers patch).findSome? PatchClass.target with
  | some target => return target
  | none => throw (.missingMember "__target_path__")

/-- What asking for a module gives, with the classes and the notices that this adds. -/
def ofLoading {α : Type} (loading : Loader → Workspace → Classes → Loading α) :
    SessionAction α :=
  ofFunction fun session =>
    let loaded := loading session.loader session.workspace session.classes
    (loaded.outcome.mapError LoadFault.failure,
      { session with
        classes := loaded.classes
        notices := session.notices ++ loaded.notices })

/-- The class that a dotted path leads to; a module on it that is not there yet is loaded. -/
def importEntity (path : String) : SessionAction (Option PathTarget) :=
  ofLoading fun loader workspace classes => loader.importEntity workspace classes path

/-- The statement of a patch class; a patch that is not compiled yet is compiled now. -/
def compiledPatch (number : Nat) : SessionAction CompiledPatch := do
  let session ← get
  let patch ← patchClass number
  match (session.classes.patchLayers patch).findSome? PatchClass.compiled with
  | some compiled => return compiled
  | none =>
    let target ← targetOf patch
    match ← importEntity target.path with
    | some found =>
      let compiled ← ofReport
        (Classes.compileDeclared session.workspace target.declaration found)
      modify fun session => { session with
        classes := session.classes.setPatch number { patch with compiled := some compiled } }
      return compiled
    | none => throw (.refused (.unresolvedPatchTarget target.path patch.name))

/-- What the names in a module lead to, which has to be loaded. -/
def namesOf (moduleName : String) : SessionAction (List (String × Thing)) := do
  named (← get).classes.modules moduleName

/-- Let a name in a loaded module lead to the class that is held under a name. -/
def bind (moduleName name object : String) : SessionAction Unit := do
  let _ ← namesOf moduleName
  match ← held object with
  | .definedClass identity =>
    let found ← definedClass identity
    modify fun session => { session with
      classes := session.classes.bind moduleName name (.defined found) }
  | _ => throw (.unknownName object)

/-- Let a name in a loaded module lead nowhere. -/
def unbind (moduleName name : String) : SessionAction Unit := do
  match (← namesOf moduleName).lookup name with
  | some _ =>
    modify fun session => { session with classes := session.classes.unbind moduleName name }
  | none => throw (.missingMember name)

/-- Ask for a module, which is loaded if it is not there yet. -/
def importModule (moduleName : String) : SessionAction Unit :=
  ofLoading fun loader workspace classes => loader.importModule workspace classes moduleName

/-- The dotted paths of a class and of the classes it extends. -/
def pathsOf (held : Held) : SessionAction (List String) := do
  let classes := (← get).classes
  match held with
  | .definedClass identity =>
    match ← definedClass identity with
    | .table found => return found.paths ++ classes.rootPaths
    | .patch number =>
      let patch ← patchClass number
      return (classes.patchLayers patch).map PatchClass.path ++ classes.rootPaths.drop 1
  | .insertModel owner model =>
    return (owner.own.moduleName ++ "." ++ model.name) :: classes.rootPaths.drop 1
  | _ => throw (.missingMember (TableClass.specialName "mro"))

/-- Whether a patch class belongs to one of the classes that some paths lead to. -/
def isTarget (patch : PatchClass) (paths : List String) : SessionAction Bool := do
  return paths.contains (← targetOf patch).path

/-! ## Objects -/

/-- A model that objects are created of, and the object that the fields of one make. -/
structure ObjectModel where
  model : Model
  build : List (String × Value) → Held

/-- The model of a class, from which objects are created. -/
def objectModel (held : Held) : SessionAction ObjectModel := do
  match held with
  | .definedClass identity =>
    match ← definedClass identity with
    | .table found => return ⟨found.model, fun fields => .entity ⟨found, fields⟩⟩
    | .patch number =>
      let model := (← patchClass number).model
      return ⟨model, fun fields => .patch ⟨number, model, fields⟩⟩
  | .insertModel table model => return ⟨model, fun fields => .row ⟨table, model, fields⟩⟩
  | other => throw (.mismatch (.notCallable other.typeName))

/-- Create an object of the class that a path leads to. -/
def create (path : String) (values : List (String × Value)) : SessionAction Held := do
  let found ← objectModel (← atPath path)
  return found.build (← require ((found.model.readEntries values).mapError .ofInvalid))

/-- Assign a value to a field of an object. -/
def assign (name field : String) (value : Value) : SessionAction Unit := do
  let changed ← require ((← held name).assign field value)
  setHeld name changed
  share (·.release ⟨name, field⟩)

/-- Add a value to the list that a field holds, wherever that list is held. -/
def append (name field : String) (value : Value) : SessionAction Unit := do
  let object ← held name
  match object.fields.lookup field with
  | some (.list items) =>
    for place in (← get).sharing.partners ⟨name, field⟩ do
      let other ← held place.object
      setHeld place.object (other.replace place.field (.list (items ++ [value])))
  | some _ => throw (.missingMember "append")
  | none => throw (.missingMember (if object.hasMember field then "append" else field))

/-- Whether a value of a type is kept as it is when it is read. -/
def keepsValue : TypeRef → Bool
  | .anything => true
  | .optional inner => keepsValue inner
  | _ => false

/-- Whether a field of an entity takes its value from the inserted row, as it is. -/
def isHandedOver (inserted : InsertRow.Inserted) (field : ModelField) : Bool :=
  keepsValue (TableClass.typeOf inserted.entity.table.fields field.name)
    && field.aliasName.isNone && (inserted.generated.lookup field.name).isNone

/-- Insert a row; lists that are handed over as they are stay shared with the row. -/
def insert (connection rowName : String) (name : Option String) : SessionAction StepResult := do
  let object ← held rowName
  refuseField object "insert"
  match object with
  | .row row =>
    let inserted ← through connection row.insert
    hold name (.entity inserted.entity)
    match name with
    | none => pure ()
    | some name =>
      for field in row.model.fields do
        if isHandedOver inserted field && rowName ≠ name then
          share (·.join ⟨rowName, field.name⟩ ⟨name, field.name⟩)
    return .value inserted.entity.display
  | _ => throw (.missingMember "insert")

/-- Hold an object that a patch was applied to, and keep track of the lists that are shared. -/
def holdApplied
    {α : Type}
    (patchName objectName : String)
    (compiled : CompiledPatch)
    (rebuild : α → Held)
    (applied : Assigned α) :
    SessionAction Unit := do
  setHeld objectName (rebuild applied.object)
  for field in compiled.plan.schema.fields do
    if applied.names.contains field.name then
      if field.byReference then share (·.join ⟨patchName, field.name⟩ ⟨objectName, field.name⟩)
      else share (·.release ⟨objectName, field.name⟩)
  require applied.result

/-- Patch an entity: check that the patch belongs to it, write the patch, and apply it. -/
def patchEntity (connection objectName : String) (entity : Entity) (patchName : String) :
    SessionAction Unit := do
  let given ← held patchName
  refuseField given "targets"
  let paths := entity.table.paths ++ (← get).classes.rootPaths
  let patch ← patchClass (← patchNumber "targets" given)
  let patchShown := match given with
    | .patch _ => patch.name
    | other => other.typeName
  unless ← isTarget patch paths do
    throw (.mismatch (.unrelatedPatch patchShown entity.table.name))
  match given with
  | .patch row =>
    let compiled ← compiledPatch row.patch
    let applied ← through connection (entity.patch row patch.name compiled)
    holdApplied patchName objectName compiled .entity applied
  | _ => throw (.missingMember "compiled")

/-- The patch that is held under a name, to call a member of it with some arguments. -/
def patchFor (member : String) (arguments : List String) (name : String) :
    SessionAction PatchRow := do
  let found ← held name
  refuseField found member
  match found with
  | .patch row => return row
  | other =>
    let _ ← patchNumber member other
    throw (.mismatch (.missingArguments ("Patch." ++ member) (arguments.getLast?).toList))

/-! ## Rows -/

/-- The output that a step chooses. -/
def outputOf : OutputChoice → SessionAction Output
  | .output found => pure found
  | .className name => do
    match ← held name with
    | .definedClass identity => return .record (← objectModel (.definedClass identity)).model
    | _ => throw (.unknownName name)

/-- Fetch rows as values. -/
def fetch (connection : String) (mode : FetchMode) (call : StatementCall) (output : Output) :
    SessionAction Value :=
  through connection <|
    match mode with
    | .all => .list <$> Database.fetchAll output.decode call.sql call.arguments call.dialect
    | .one => Database.fetchOne output.decode call.sql call.arguments call.dialect
    | .optional => (·.getD .null) <$>
        Database.fetchOptional output.decode call.sql call.arguments call.dialect

/-- Hold a stream that reads from a connection, which has to be there. -/
def holdStream (name : Option String) (connection : String) (stream : Stream Value) :
    SessionAction Unit := do
  let _ ← named (← get).connections connection
  hold name (.stream ⟨connection, stream⟩)

/-- Take rows from a stream, or items from anything else that has some. -/
def next (name : String) (count : Nat) : SessionAction Value := do
  match ← held name with
  | .stream source =>
    let batchSize := (← get).workspace.settings.streamBatchSize
    let (result, stream) ← through source.connection <| Database.ofFunction fun connection =>
      match source.stream.take batchSize count connection with
      | ⟨result, stream, after⟩ => (.ok (result, stream), after)
    setHeld name (.stream { source with stream := stream })
    return .list (← require result)
  | other =>
    match other.items? with
    | some items => return .list (items.take count)
    | none => throw (.mismatch (.noMembers other.typeName))

/-- Close a stream. -/
def close (name : String) : SessionAction Unit := do
  let object ← held name
  refuseField object "close"
  match object with
  | .stream source => setHeld name (.stream (← endStream source))
  | _ => throw (.missingMember "close")

/-- Compile a conditional query and hold it under a name. -/
def defineQuery (request : QueryRequest) (name : Option String) :
    SessionAction Query.ConditionalQuery := do
  let output ← outputOf request.output
  match Query.ConditionalQuery.compile (← get).workspace request.backend request.limit output
    request.items with
  | .error (.refused error) => throw (.refused error)
  | .error (.unnamed fault) => throw (.unnamedColumn fault)
  | .error .limitOutOfRange => throw .limitOutOfRange
  | .error .excessDigits => throw .excessDigits
  | .ok query =>
    hold name (.query query)
    return query

/-- The members of a query that fetch rows. -/
def fetchMember : QueryFetch → String
  | .rows .all => "fetch_all"
  | .rows .one => "fetch_one"
  | .rows .optional => "fetch_optional"
  | .stream => "fetch"

/-- The member that something lacks which cannot be fetched from. -/
def missingFetch : QueryFetch → String
  | .rows _ => fetchMember (.rows .all)
  | .stream => fetchMember .stream

/-- Fetch the rows of the variant that the parameters of a call select. -/
def fetchQuery
    (connection queryName : String)
    (how : QueryFetch)
    (parameters : Query.Parameters)
    (name : Option String) :
    SessionAction Value := do
  match ← held queryName with
  | .query query =>
    let selected ← require
      ((query.call (fetchMember how) ["self", "handle"] parameters).mapError .call)
    let dialect := some query.backend.name
    match how with
    | .rows mode =>
      fetch connection mode ⟨selected.sql, selected.arguments, dialect⟩ query.output
    | .stream =>
      holdStream name connection {
        request := { sql := selected.sql, arguments := selected.arguments, dialect := dialect }
        decoder := query.output.decode }
      return .null
  | other =>
    refuseField other (missingFetch how)
    throw (.missingMember (missingFetch how))

/-! ## Steps -/

/-- What a handle shows of itself. -/
def describeHandle (connection : String) : SessionAction StepResult := do
  let handle ← named (← get).connections connection
  let attributes := handle.attributesAt .handle
  let isInTransaction ← require attributes.isInTransaction
  return .handle handle.isPool isInTransaction attributes.isAutocommit

/-- Call a member of what a path leads to, and hold the result. -/
def callAt (connection path member : String) (arguments : List Value) (name : Option String) :
    SessionAction StepResult := do
  let found ← call connection (rootOf path) (← atPath path) member arguments
  hold name found
  return .value (← displayOf found)

/-- Call a member of what is held under a name, and give nothing. -/
def callHeld (connection name member : String) (arguments : List Value) :
    SessionAction StepResult := do
  let _ ← call connection name (← held name) member arguments
  return .value .null

/-- Open a stream of the class that a path leads to. -/
def openStream (connection path member : String) (arguments : List Value)
    (name : Option String) : SessionAction StepResult := do
  hold name (← call connection (rootOf path) (← atPath path) member arguments)
  return .value .null

/-- Perform an operation. -/
def perform (connection : String) : Operation → SessionAction StepResult
  | .defineDeclared declaration base isHidden => defineDeclared declaration base isHidden
  | .defineTable request => defineTable request
  | .definePatch request => definePatch request
  | .bind moduleName name object => do
    bind moduleName name object
    return .value .null
  | .unbind moduleName name => do
    unbind moduleName name
    return .value .null
  | .importModule moduleName => do
    importModule moduleName
    return .value .null
  | .create path values name => do
    let created ← create path values
    hold name created
    return .value (← displayOf created)
  | .display name => do return .value (← displayOf (← held name))
  | .assign name field value => do
    assign name field value
    return .value .null
  | .append name field value => do
    append name field value
    return .value .null
  | .insert row name => insert connection row name
  | .get path identifier name => callAt connection path "get" [identifier] name
  | .all path => callAt connection path "all" [] none
  | .stream path none name => openStream connection path "stream_all" [] name
  | .stream path (some (offset, limit)) name =>
    openStream connection path "stream_paginated" [offset, limit] name
  | .next name count => return .value (← next name count)
  | .close name => do
    close name
    return .value .null
  | .update name => callHeld connection name "update" []
  | .delete name => callHeld connection name "delete" []
  | .reload name => callHeld connection name "reload" []
  | .deleteRow path identifier => callAt connection path "delete_row" [identifier] none
  | .lookup path member argument name => callAt connection path member [argument] name
  | .set name member value => callHeld connection name member [value]
  | .patch name patchName => do
    let object ← held name
    refuseField object "patch"
    match object with
    | .entity entity => patchEntity connection name entity patchName
    | other => let _ ← call connection name other "patch" [.null]
    return .value .null
  | .patchRow patchName identifier => do
    let row ← patchFor "patch_row" ["handle", "id"] patchName
    let compiled ← compiledPatch row.patch
    through connection (row.write compiled identifier)
    return .value .null
  | .applyPatch patchName name => do
    let row ← patchFor "apply_to" ["entity"] patchName
    let target ← held name
    let compiled ← compiledPatch row.patch
    holdApplied patchName name compiled id (row.applyTo compiled Held.assign target)
    return .value .null
  | .targets patchName path => do
    let given ← held patchName
    refuseField given "targets"
    let patch ← patchClass (← patchNumber "targets" given)
    let paths ← pathsOf (← atPath path)
    return .value (.bool (← isTarget patch paths))
  | .compiled patchName => do
    let given ← held patchName
    refuseField given "compiled"
    let compiled ← compiledPatch (← patchNumber "compiled" given)
    return .statement compiled.plan.statement
  | .execute call => do
    return .value (← through connection
      (Database.execute call.sql call.arguments call.dialect))
  | .fetch mode call output => do
    return .value (← fetch connection mode call (← outputOf output))
  | .streamRows request output name => do
    let output ← outputOf output
    holdStream name connection { request := request, decoder := output.decode }
    return .value .null
  | .fetchRow call => do
    let row ← through connection <| Database.acquire fun _ => do
      let cursor ← Database.openCursor call.dialect
      let cursor ← Database.run cursor call.sql call.arguments
      return (← Database.fetchRow cursor call.sql).1
    return .value (.object row)
  | .handle => describeHandle connection
  | .setConnection change => do
    let found ← named (← get).connections connection
    modify fun session => { session with
      connections := Entries.put session.connections connection (change found) }
    return .value .null
  | .configure change => do
    let session ← get
    let settings ← require ((session.workspace.settings.change change).mapError .settings)
    set { session with workspace := { session.workspace with settings := settings } }
    return .settings settings
  | .query request name => return .query (← defineQuery request name)
  | .fetchQuery query how parameters name => do
    return .value (← fetchQuery connection query how parameters name)
  | .refused failure => throw failure

/-- Replace the replies of a connection, if a step brings some. -/
def prepare (connection : String) : Option (List Reply) → SessionAction Unit
  | none => pure ()
  | some replies => do
    let found ← named (← get).connections connection
    modify fun session => { session with
      connections := Entries.put session.connections connection
        { found with replies := replies } }

mutual

/-- Run a step. -/
def run : Step → SessionAction StepResult
  | .operation connection replies performed =>
    prepare connection replies >>= fun _ => perform connection performed
  | .work connection replies beginSql steps fault =>
    prepare connection replies >>= fun _ =>
      through connection (Database.beginWork .handle beginSql) >>= fun transaction =>
        outcomeOf (runAll steps >>= fun results =>
          require (match fault with
            | some fault => .error (.raised fault)
            | none => .ok (StepResult.several results))) >>= fun outcome =>
          through connection (Database.endWork .handle transaction outcome)

/-- Run steps in order; the first failure ends the run. -/
def runAll : List Step → SessionAction (List StepResult)
  | [] => pure []
  | step :: rest =>
    run step >>= fun result => runAll rest >>= fun results => pure (result :: results)

end

end SessionAction

namespace Session

/-- Run a step and report on it. -/
def step (session : Session) (step : Step) : StepReport × Session :=
  match (SessionAction.run step).on { session with journal := [], notices := [] } with
  | (result, after) =>
    ({ result := result
       warnings := after.notices.filter fun notice => notice.level = .warning
       events := after.journal
       state := (step.subject?.bind fun name => after.held.lookup name).map
        (Held.display after.classes) }, after)

/-- Run steps one after the other; a step that fails does not end the session. -/
def steps (session : Session) : List Step → List StepReport
  | [] => []
  | first :: rest =>
    match session.step first with
    | (report, after) => report :: steps after rest

end Session

end SqlMapping
