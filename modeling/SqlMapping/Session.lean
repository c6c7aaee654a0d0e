import SqlMapping.Entity.Insertion
import SqlMapping.Entity.Loading
import SqlMapping.Entity.Patching
import SqlMapping.Query.Conditional
import SqlMapping.Session.Sharing

/-!
# Sessions

A session defines classes, holds things under names, and runs operations against named
connections.  Classes, objects, lists, streams and queries share one set of names, and what is
held under a name anew takes the place of what was held there before.  A session collects what
the connections saw and what was noted on the way.
-/

namespace SqlMapping

/-- A stream and the connection it reads from. -/
structure HeldStream where
  connection : String
  stream : Stream Value

/-- A thing that is held under a name. -/
inductive Held where
  | entity (entity : Entity)
  | row (row : InsertRow)
  | patch (row : PatchRow)
  | entities (entities : List Entity)
  | nothing
  /-- The class of an identity. -/
  | definedClass (identity : Nat)
  /-- The insert model of a class. -/
  | insertModel (table : TableClass) (model : Model)
  | stream (stream : HeldStream)
  | query (query : Query.ConditionalQuery)

/-- A session. -/
structure Session where
  workspace : Workspace
  classes : Classes
  /-- What loads the modules that dotted paths name. -/
  loader : Loader := .nothing
  connections : List (String × Connection)
  held : List (String × Held) := []
  sharing : Sharing := {}
  /-- What the connections saw. -/
  journal : List Event := []
  notices : List Notice := []

/-- An action that works on a session and gives a value or fails. -/
abbrev SessionAction := ExceptT Failure (StateM Session)

/-- An entity as a value. -/
def Entity.display (entity : Entity) : Value :=
  .record entity.table.name entity.fields

/-- A stream of values in place of a stream of entities. -/
def Stream.display (stream : Stream Entity) : Stream Value where
  request := stream.request
  decoder := fun row => (stream.decoder row).map Entity.display
  state := stream.state

namespace Held

/-- A held thing as a value. -/
def display (classes : Classes) : Held → Value
  | .entity found => found.display
  | .row found => .record found.model.name found.fields
  | .patch found => .record found.model.name found.fields
  | .entities found => .list (found.map Entity.display)
  | .nothing => .null
  | .definedClass identity => .type (classes.typeOf identity)
  | .insertModel _ model => .text model.name
  | .stream found => .text found.stream.request.sql
  | .query found => .text found.display

/-- The name that a message gives to the type of a held thing. -/
def typeName : Held → String
  | .entity found => found.table.name
  | .row found => found.model.name
  | .patch found => found.model.name
  | .entities found => (Value.list (found.map Entity.display)).typeName
  | .nothing => Value.null.typeName
  | .definedClass identity => (Value.type (.entity identity "")).typeName
  | .insertModel _ _ => (Value.type (.entity 0 "")).typeName
  | .stream _ => "generator"
  | .query _ => "ConditionalQuery"

/-- What a lookup gives. -/
def ofFound : TableClass.Found → Held
  | .entity found => .entity found
  | .nothing => .nothing
  | .entities found => .entities found

/-- The fields of an object. -/
def fields : Held → List (String × Value)
  | .entity found => found.fields
  | .row found => found.fields
  | .patch found => found.fields
  | _ => []

/-- Whether an object has a member of a name that is no field. -/
def hasMember (held : Held) (name : String) : Bool :=
  TableClass.reservedNames.contains name
    && (!TableClass.tableMembers.contains name || (held matches .entity _))
    || match held with
      | .entity found => (found.table.member? name).isSome || TableClass.parts.contains name
      | .row _ => name = "insert" || InsertRow.parts.contains name
      | .patch _ => PatchClass.commonMembers.contains name || PatchRow.parts.contains name
      | _ => false

/-- Assign a value to a field of an object. -/
def assign (held : Held) (name : String) (value : Value) : Except Failure Held :=
  match held with
  | .entity found => (found.assign name value).map .entity
  | .row found => (found.assign name value).map .row
  | .patch found => (found.assign name value).map .patch
  | .entities _ | .nothing | .stream _ => .error (.noMember held.typeName name)
  | .definedClass _ | .insertModel _ _ | .query _ => .ok held

/-- Replace the value of a field that an object has, whether or not it can be assigned. -/
def replace (held : Held) (name : String) (value : Value) : Held :=
  match held with
  | .entity found => .entity { found with fields := Entries.put found.fields name value }
  | .row found => .row { found with fields := Entries.put found.fields name value }
  | .patch found => .patch { found with fields := Entries.put found.fields name value }
  | other => other

/-- The items of a held thing that can be run through any number of times. -/
def items? : Held → Option (List Value)
  | .entities found => some (found.map Entity.display)
  | .entity found => some (pairs found.fields)
  | .row found => some (pairs found.fields)
  | .patch found => some (pairs found.fields)
  | _ => none
where
  pairs (fields : List (String × Value)) : List Value :=
    fields.map fun field => .tuple [.text field.1, field.2]

end Held

namespace SessionAction

variable {α : Type}

/-- The action that a function of the session makes. -/
def ofFunction (function : Session → Except Failure α × Session) : SessionAction α :=
  function

/-- Run an action on a session. -/
def on (action : SessionAction α) (session : Session) : Except Failure α × Session :=
  action session

/-- A result that is known already. -/
def require (result : Except Failure α) : SessionAction α :=
  ofFunction fun session => (result, session)

/-- The outcome of an action as a value. -/
def outcomeOf (action : SessionAction α) : SessionAction (Except Failure α) :=
  ofFunction fun session =>
    match action.on session with
    | (result, after) => (.ok result, after)

/-- The value under a name. -/
def named (entries : List (String × α)) (name : String) : SessionAction α :=
  require
    (match entries.lookup name with
      | some value => .ok value
      | none => .error (.unknownName name))

/-- The result of checking or compiling, with its notices. -/
def ofReport (report : Report α) : SessionAction α :=
  ofFunction fun session =>
    (report.outcome.mapError .refused,
      { session with notices := session.notices ++ report.notices })

/-- Act on a named connection; what the connection saw goes into the journal of the session. -/
def through (name : String) (action : Database α) : SessionAction α := do
  let connection ← named (← get).connections name
  ofFunction fun session =>
    match action.on { connection with journal := [] } with
    | (result, after) =>
      (result,
        { session with
          connections := Entries.put session.connections name { after with journal := [] }
          journal := session.journal ++ after.journal })

/-- End a stream on the connection that it reads from. -/
def endStream (held : HeldStream) : SessionAction HeldStream := do
  let stream ← through held.connection <| Database.ofFunction fun connection =>
    match held.stream.close connection with
    | (stream, after) => (.ok stream, after)
  return { held with stream := stream }

/-- Replace a held thing in place. -/
def setHeld (name : String) (held : Held) : SessionAction Unit :=
  modify fun session => { session with held := Entries.put session.held name held }

/--
Hold a thing under a name; it shares nothing with what was held there before, and a stream that
was held there ends.
-/
def hold (name : Option String) (held : Held) : SessionAction Unit := do
  match name with
  | none => pure ()
  | some name =>
    let replaced := (← get).held.lookup name
    setHeld name held
    modify fun session => { session with sharing := session.sharing.releaseObject name }
    match replaced with
    | some (.stream stream) => let _ ← endStream stream
    | _ => pure ()

/-- Change which places hold one list. -/
def share (change : Sharing → Sharing) : SessionAction Unit :=
  modify fun session => { session with sharing := change session.sharing }

/-- What is held under a name. -/
def held (name : String) : SessionAction Held := do
  named (← get).held name

/-- A held thing as a value. -/
def displayOf (held : Held) : SessionAction Value := do
  return held.display (← get).classes

/-- The class of an identity. -/
def definedClass (identity : Nat) : SessionAction DefinedClass := do
  match (← get).classes.class? identity with
  | some found => return found
  | none => throw (.unknownName (toString identity))

/-- The patch class of a number. -/
def patchClass (number : Nat) : SessionAction PatchClass := do
  match (← get).classes.patch? number with
  | some patch => return patch
  | none => throw (.unknownName (toString number))

/-- The member of a held thing that is a class. -/
def memberClass (held : Held) (name : String) : SessionAction Held := do
  let classIn (table : TableClass) : SessionAction Held :=
    match table.member? name with
    | some (.insert model) => pure (.insertModel (table.owner name) model)
    | some (.nested identity) => pure (.definedClass identity)
    | _ => throw (.missingMember name)
  match held with
  | .entity found => classIn found.table
  | .definedClass identity =>
    match ← definedClass identity with
    | .table found => classIn found
    | .patch _ => throw (.missingMember name)
  | _ => throw (.missingMember name)

/-- The name that a dotted path begins with. -/
def rootOf (path : String) : String := (Classes.partsOf path).headD path

/-- What a dotted path leads to. -/
def atPath (path : String) : SessionAction Held := do
  let root ← held (rootOf path)
  ((Classes.partsOf path).drop 1).foldlM memberClass root

/-- The table class held under a name. -/
def tableNamed (name : String) : SessionAction TableClass := do
  match ← held name with
  | .definedClass identity =>
    match ← definedClass identity with
    | .table found => return found
    | .patch _ => throw (.missingMember name)
  | _ => throw (.missingMember name)

/-- The number of the patch class that a held thing is or belongs to. -/
def patchNumber (operation : String) (held : Held) : SessionAction Nat := do
  match held with
  | .patch found => return found.patch
  | .definedClass identity =>
    match ← definedClass identity with
    | .patch number => return number
    | .table _ => throw (.missingMember operation)
  | _ => throw (.missingMember operation)

end SessionAction

end SqlMapping
