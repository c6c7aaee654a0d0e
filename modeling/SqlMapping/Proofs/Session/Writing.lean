import SqlMapping.Proofs.Session.Holding

/-!
# Writing what a session holds

A member of an entity that assigns fields is a setter or reloads the entity.  What is held changes
by it only after its statement was executed, and only in the fields that the statement is about.

The main statements say this of setters and of reloading, for either outcome.
-/

namespace SqlMapping

open Database (bound)

namespace Session

/-- A session has executed a statement and nothing else. -/
def Executes
    (before : Session)
    (statement : Statement)
    (fields arguments : List (String × Value))
    (after : Session) :
    Prop :=
  ∃ (values : List Value) (events : List Event),
    bound statement fields arguments = .ok values ∧
      after.journal = before.journal ++ events ∧
      requestsOf events = [(statement.sql, some values)]

/-- Of all that is held only an entity is another, and that only in some fields. -/
def Changes
    (before : Session)
    (name : String)
    (entity : Entity)
    (names : List String)
    (source : List (String × Value))
    (after : Session) :
    Prop :=
  ∃ changed : Entity,
    after.held = Entries.put before.held name (.entity changed) ∧
      entity.Takes changed names source

/--
A setter has executed its statement with the value that it read, and changed its field to what the
class stores of it.
-/
def SetsField
    (before : Session)
    (name : String)
    (entity : Entity)
    (setter : Setter)
    (type : TypeRef)
    (value : Value)
    (after : Session) :
    Prop :=
  ∃ checked identifier kept : Value,
    type.read entity.table.own.style [] value = .ok checked ∧
      entity.identifier = .ok identifier ∧
      entity.table.model.stored setter.fieldName checked = .ok kept ∧
      before.Executes setter.statement [] [("value", checked), ("id", identifier)] after ∧
      before.Changes name entity [setter.fieldName] [(setter.fieldName, kept)] after

/-- A class stores the values as they are that rows of it have which a connection gives. -/
def KeepsFetched (session : Session) (connection : String) (table : TableClass) : Prop :=
  ∀ (handle fetched : Connection) (identifier : Value) (fresh : Entity),
    session.connections.lookup connection = some handle →
      (table.get identifier).on { handle with journal := [] } = (.ok fresh, fetched) →
        table.Keeps table.fieldNames fresh.fields

/-- Every field of an entity has changed to that of the entity that its row was fetched as. -/
def Reloads
    (before : Session)
    (connection name : String)
    (entity : Entity)
    (after : Session) :
    Prop :=
  ∃ (compiled : CompiledTable) (identifier : Value) (handle fetched : Connection)
      (fresh : Entity),
    entity.table.statements = .ok compiled ∧
      entity.identifier = .ok identifier ∧
      before.connections.lookup connection = some handle ∧
      (entity.table.get identifier).on { handle with journal := [] } = (.ok fresh, fetched) ∧
      before.Executes compiled.plan.get [] [("id", identifier)] after ∧
      before.Changes name entity entity.table.fieldNames fresh.fields after

end Session

namespace TableCall

theorem member?_of_ofName?_setter
    {table : TableClass}
    {member : String}
    {setter : Setter}
    {type : TypeRef}
    (found : ofName? table member = some (.setter setter type)) :
    table.member? member = some (.setter setter type) := by
  have notCommon : common.lookup member ≠ some (.setter setter type) := by
    intro isCommon
    have isEntry := Entries.mem_of_lookup isCommon
    simp [common] at isEntry
  rw [ofName?] at found
  cases isMember : table.member? member with
  | none =>
      rw [isMember] at found
      exact absurd found notCommon
  | some other =>
      rw [isMember] at found
      cases other with
      | setter other otherType =>
          cases found
          rfl
      | method => exact absurd found notCommon
      | _ => cases found

end TableCall

namespace SessionAction

variable {session : Session} {connection name : String} {entity : Entity}
  {leaves : Session → Prop}

/-! ## Assigned entities -/

/-- Changing which places hold a list, for one item after the other, changes nothing else. -/
theorem ends_forIn
    {ι : Type}
    {body : ι → SessionAction (ForInStep PUnit)}
    (shares :
      ∀ (item : ι) (session : Session), ∃ sharing : Sharing,
        (body item).on session = (.ok (.yield ⟨⟩), { session with sharing := sharing }))
    (items : List ι)
    {gives : PUnit → Session → Prop}
    (given : ∀ sharing : Sharing, gives ⟨⟩ { session with sharing := sharing }) :
    Ends session leaves (forIn items PUnit.unit fun item _ => body item) gives := by
  induction items generalizing session with
  | nil => exact given session.sharing
  | cons item rest inductionHypothesis =>
      rcases shares item session with ⟨first, isFirst⟩
      rw [List.forIn_cons]
      apply Ends.bind
      rw [Ends, isFirst]
      exact inductionHypothesis fun last => given last

theorem ends_holdAssigned
    {changed : Entity}
    {names : List String}
    {gives : Unit → Session → Prop}
    (given :
      ∀ after : Session,
        after.held = Entries.put session.held name (.entity changed) →
          after.journal = session.journal → gives () after) :
    Ends session leaves (holdAssigned name ⟨changed, names, .ok ()⟩) gives := by
  apply Ends.bind
  apply ends_modify
  apply Ends.bind
  apply ends_forIn
  · exact fun field before => ⟨before.sharing.release ⟨name, field⟩, rfl⟩
  · intro sharing
    exact given _ rfl rfl

/-! ## Members of entities -/

theorem ends_refuseField
    {object : Held}
    {member : String}
    {gives : Unit → Session → Prop}
    (left : leaves session)
    (given : gives () session) :
    Ends session leaves (refuseField object member) gives := by
  rw [refuseField]
  cases object.fields.lookup member with
  | none => exact ends_pure given
  | some value => exact ends_throw left

/-- Calling a member of an entity leaves everything as it is, or comes to the member. -/
theorem ends_callHeld_entity
    {member : String}
    {call : TableCall}
    {arguments : List Value}
    {gives : StepResult → Session → Prop}
    (isHeld : session.held.lookup name = some (.entity entity))
    (found : TableCall.ofName? entity.table member = some call)
    (ofObjects : (call.signature (entity.table.owner member).name member).ofClass = false)
    (left : leaves session)
    (calls :
      Ends session leaves (callOnEntity connection name entity call arguments)
        fun _ after => gives (.value .null) after) :
    Ends session leaves (callHeld connection name member arguments) gives := by
  apply Ends.bind
  apply ends_held isHeld
  apply Ends.bind
  apply Ends.bind
  apply ends_refuseField left
  show Ends session leaves
    (callTable connection name entity.table (some entity) member arguments) _
  rw [callTable, found]
  apply Ends.bind
  apply ends_require left
  intro _ _
  rw [ofObjects, if_neg Bool.false_ne_true]
  exact calls

/-- What a setter leaves when it fails and what it has done when it does not. -/
theorem ends_set
    {member : String}
    {setter : Setter}
    {type : TypeRef}
    {value : Value}
    (isHeld : session.held.lookup name = some (.entity entity))
    (isDefined : entity.table.IsDefined)
    (isAssignable : entity.table.IsAssignable)
    (found : TableCall.ofName? entity.table member = some (.setter setter type)) :
    Ends session
      (fun after =>
        after.held = session.held ∧
          ((∀ checked, type.read entity.table.own.style [] value ≠ .ok checked) →
            after.journal = session.journal))
      (callHeld connection name member [value])
      fun _ after => session.SetsField name entity setter type value after := by
  refine ends_callHeld_entity isHeld found rfl ⟨rfl, fun _ => rfl⟩ ?_
  apply Ends.bind
  apply ends_through
  · exact ⟨rfl, fun _ => rfl⟩
  · intro handle after failure _ acted
    refine ⟨rfl, fun unread => ?_⟩
    have nothing :
        ((entity.set setter type value).on { handle with journal := [] }).2 =
          { handle with journal := [] } :=
      Entity.snd_on_set_of_unread unread
    rw [acted] at nothing
    have same : after = { handle with journal := [] } := nothing
    show session.journal ++ after.journal = session.journal
    rw [same, List.append_nil]
  · intro handle after changed _ acted
    rcases Entity.exists_of_set acted with
      ⟨checked, identifier, values, events, isChecked, isIdentifier, isBound, leads, asked,
        assigned⟩
    have isField := isDefined.fieldName_mem (TableCall.member?_of_ofName?_setter found)
    rw [Entity.assign_eq isDefined isAssignable isField, Outcome.map_eq_ok_iff] at assigned
    rcases assigned with ⟨kept, isKept, rfl⟩
    apply Ends.bind
    apply ends_modify
    apply Ends.bind
    apply ends_modify
    apply ends_pure
    refine ⟨checked, identifier, kept, isChecked, isIdentifier, isKept,
      ⟨values, events, isBound, ?_, asked⟩, _, rfl, rfl, fun field => ?_⟩
    · show session.journal ++ after.journal = session.journal ++ events
      rw [leads.journal]
      rfl
    · by_cases same : field = setter.fieldName
      · rw [same, if_pos List.mem_cons_self, Entries.lookup_put_self]
        exact List.lookup_cons_self.symm
      · rw [if_neg fun member => same (List.mem_singleton.1 member)]
        exact Entries.lookup_put_of_ne same

/-- What reloading leaves when it fails and what it has done when it does not. -/
theorem ends_reload
    {member : String}
    {arguments : List Value}
    (isHeld : session.held.lookup name = some (.entity entity))
    (isDefined : entity.table.IsDefined)
    (isAssignable : entity.table.IsAssignable)
    (keeps : session.KeepsFetched connection entity.table)
    (found : TableCall.ofName? entity.table member = some .reload) :
    Ends session (fun after => after.held = session.held)
      (callHeld connection name member arguments)
      fun _ after => session.Reloads connection name entity after := by
  refine ends_callHeld_entity isHeld found rfl ?_ ?_
  · rfl
  apply Ends.bind
  apply ends_through
  · rfl
  · intro handle after failure _ _
    rfl
  · intro handle after assigned isFound acted
    rcases Entity.exists_of_reload acted with ⟨identifier, fresh, isIdentifier, fetched, isAssigned⟩
    rcases Entity.exists_of_get fetched with
      ⟨sameTable, complete, compiled, values, events, isCompiled, isBound, leads, asked⟩
    have areFetched : ∀ field ∈ entity.table.fieldNames, field ∈ fresh.fields.map Prod.fst := by
      rw [complete, sameTable]
      exact fun field member => member
    rcases Entity.exists_ofNames_assign isDefined isAssignable (fun field member => member)
        areFetched (keeps handle after identifier fresh isFound fetched) with
      ⟨changed, isChanged, takes⟩
    rw [isAssigned, isChanged]
    apply Ends.bind
    apply ends_holdAssigned
    intro last held journal
    apply ends_pure
    refine ⟨compiled, identifier, handle, after, fresh, isCompiled, isIdentifier, isFound, fetched,
      ⟨values, events, isBound, ?_, asked⟩, changed, held, takes⟩
    rw [journal]
    show session.journal ++ after.journal = session.journal ++ events
    rw [leads.journal]
    rfl

end SessionAction

end SqlMapping
