import SqlMapping.Session

/-!
# Calling members

A member of a class or of an object is called with the connection and some arguments.  A member
of the class works the same through its objects; a member of objects needs one.  A field of an
object hides a member of its name, and a value cannot be called.  The number of the arguments
is checked before anything else.
-/

namespace SqlMapping

/-- How a member is called. -/
structure Signature where
  /-- The name that messages give to the member. -/
  shownName : String
  /-- Whether the member is one of the class and not of its objects. -/
  ofClass : Bool
  /-- The parameters, that of the class or object itself included. -/
  parameters : List String

namespace Signature

/-- The number of the arguments that a member takes in; a bound member takes itself first. -/
def total (signature : Signature) (throughObject : Bool) (given : Nat) : Nat :=
  if signature.ofClass || throughObject then given + 1 else given

/-- Check the number of the arguments of a call. -/
def check (signature : Signature) (throughObject : Bool) (given : Nat) :
    Except KindMismatch Unit :=
  let total := signature.total throughObject given
  let taken := signature.parameters.length
  if taken < total then .error (.excessArguments signature.shownName taken total)
  else if total < taken then
    .error (.missingArguments signature.shownName (signature.parameters.drop total))
  else .ok ()

/-- A call is accepted exactly when it takes in as many arguments as there are parameters. -/
theorem check_eq_ok_iff {signature : Signature} {throughObject : Bool} {given : Nat} :
    signature.check throughObject given = .ok () ↔
      signature.total throughObject given = signature.parameters.length := by
  unfold check
  simp only []
  split
  · rename_i excess
    exact ⟨fun refused => (by cases refused), fun equal => absurd excess (by omega)⟩
  · split
    · rename_i lacking
      exact ⟨fun refused => (by cases refused), fun equal => absurd lacking (by omega)⟩
    · exact ⟨fun _ => by omega, fun _ => rfl⟩

end Signature

/-- The members of a table class that can be called. -/
inductive TableCall where
  | get
  | all
  | streamAll
  | streamPaginated
  | update
  | reload
  | patch
  | getter (getter : Getter)
  | setter (setter : Setter) (type : TypeRef)
  | deleteRow
  | delete
  /-- Making an object of a class that is a member. -/
  | newRecord

namespace TableCall

/-- The members that every table class has, by name. -/
def common : List (String × TableCall) :=
  [("get", .get), ("all", .all), ("stream_all", .streamAll),
    ("stream_paginated", .streamPaginated), ("update", .update), ("reload", .reload),
    ("patch", .patch)]

/-- The member of a name. -/
def ofName? (table : TableClass) (name : String) : Option TableCall :=
  match table.member? name with
  | some (.getter found) => some (.getter found)
  | some (.setter found type) => some (.setter found type)
  | some .deleteRow => some .deleteRow
  | some .delete => some .delete
  | some (.insert _) | some (.nested _) => some .newRecord
  | some .method | none => common.lookup name

/-- How a member of a class of some name is called. -/
def signature (owner member : String) : TableCall → Signature
  | .get => ⟨"Table.get", true, ["cls", "handle", "id"]⟩
  | .all => ⟨"Table.all", true, ["cls", "handle"]⟩
  | .streamAll => ⟨"Table.stream_all", true, ["cls", "handle"]⟩
  | .streamPaginated => ⟨"Table.stream_paginated", true, ["cls", "handle", "offset", "limit"]⟩
  | .update => ⟨"Table.update", false, ["self", "handle"]⟩
  | .reload => ⟨"Table.reload", false, ["self", "handle"]⟩
  | .patch => ⟨"Table.patch", false, ["self", "handle", "patch"]⟩
  | .getter _ => ⟨owner ++ "." ++ member, true, ["cls", "handle", "by"]⟩
  | .setter _ _ => ⟨owner ++ "." ++ member, false, ["self", "handle", "value"]⟩
  | .deleteRow => ⟨owner ++ "." ++ member, true, ["cls", "handle", "id"]⟩
  | .delete => ⟨owner ++ "." ++ member, false, ["self", "handle"]⟩
  | .newRecord => ⟨"BaseModel.__init__", true, ["self"]⟩

/-- The part that a handle lacks where a member of objects is called on it. -/
def missingPart : TableCall → String
  | .update => TableClass.statementsPart
  | .reload => "get"
  | .patch => "targets"
  | .setter _ _ | .delete => "_id"
  | _ => ""

end TableCall

namespace SessionAction

/-- Hold what assigning the fields of an entity gave. -/
def holdAssigned (name : String) (assigned : Assigned Entity) : SessionAction Unit := do
  setHeld name (.entity assigned.object)
  for field in assigned.names do share (·.release ⟨name, field⟩)
  require assigned.result

/-- Call a member of objects on the entity that is held under a name. -/
def callOnEntity (connection name : String) (entity : Entity) (call : TableCall)
    (arguments : List Value) : SessionAction Held := do
  match call, arguments with
  | .update, _ => through connection entity.update
  | .reload, _ => holdAssigned name (← through connection entity.reload)
  | .delete, _ => through connection entity.delete
  | .setter setter type, [value] =>
    let changed ← through connection (entity.set setter type value)
    setHeld name (.entity changed)
    share (·.release ⟨name, setter.fieldName⟩)
  | _, _ => throw (.missingMember call.missingPart)
  return .nothing

/-- A stream of entities that reads from a connection, which has to be there. -/
def streamOn (connection : String) (stream : Stream Entity) : SessionAction Held := do
  let _ ← named (← get).connections connection
  return .stream ⟨connection, stream.display⟩

/-- Call a member of a table class. -/
def callOnClass (connection : String) (table : TableClass) (call : TableCall)
    (arguments : List Value) : SessionAction Held := do
  match call, arguments with
  | .get, [identifier] => .entity <$> through connection (table.get identifier)
  | .all, _ =>
    .entities <$> through connection (table.all (← get).workspace.settings.streamBatchSize)
  | .streamAll, _ => streamOn connection (← require table.streamAll)
  | .streamPaginated, [offset, limit] =>
    streamOn connection (← require (table.streamPage offset limit))
  | .getter getter, [argument] =>
    Held.ofFound <$> through connection (table.lookup getter argument)
  | .deleteRow, [identifier] => do
    through connection (table.deleteRow identifier)
    return .nothing
  | _, _ => throw (.missingMember call.missingPart)

/-- Call a member of a table class, through the class or through one of its entities. -/
def callTable (connection name : String) (table : TableClass) (entity : Option Entity)
    (member : String) (arguments : List Value) : SessionAction Held := do
  match TableCall.ofName? table member with
  | none => throw (.missingMember member)
  | some call =>
    let signature := call.signature (table.owner member).name member
    require ((signature.check entity.isSome (arguments.length + 1)).mapError .mismatch)
    if signature.ofClass then callOnClass connection table call arguments
    else
      match entity with
      | some entity => callOnEntity connection name entity call arguments
      | none => throw (.missingMember call.missingPart)

/-- Refuse to call a field, which would hide a member of its name. -/
def refuseField (held : Held) (member : String) : SessionAction Unit :=
  match held.fields.lookup member with
  | some value => throw (.mismatch (.notCallable value.typeName))
  | none => pure ()

/-- Call a member of what is held under a name, with the connection and some arguments. -/
def call (connection name : String) (held : Held) (member : String) (arguments : List Value) :
    SessionAction Held := do
  refuseField held member
  match held with
  | .entity entity => callTable connection name entity.table (some entity) member arguments
  | .definedClass identity =>
    match ← definedClass identity with
    | .table table => callTable connection name table none member arguments
    | .patch _ => throw (.missingMember member)
  | _ => throw (.missingMember member)

end SessionAction

end SqlMapping
