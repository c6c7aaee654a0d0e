import SqlMapping.Proofs.Entity.Writing
import SqlMapping.Session.Run

/-!
# What sessions hold

What an action of a session does is known for either outcome: what holds of the value that it gives
and of the session after it, and what holds of the session when it fails.  Most actions change
nothing of what is held, whatever their outcome.

The main statements say that calling a member of a class changes nothing that is held, and that a
member of an entity does so only if it is a setter or reloads the entity.
-/

namespace SqlMapping

/-- A session after an action on one of its connections. -/
def Session.acted (session : Session) (name : String) (after : Connection) : Session :=
  { session with
    connections := Entries.put session.connections name { after with journal := [] }
    journal := session.journal ++ after.journal }

namespace SessionAction

variable {α β γ : Type} {session : Session}

/-! ## Outcomes -/

/-- What holds of the value and the session that an action gives, and of a session left by it. -/
def Ends
    (session : Session)
    (leaves : Session → Prop)
    (action : SessionAction α)
    (gives : α → Session → Prop) :
    Prop :=
  match action.on session with
  | (.ok value, after) => gives value after
  | (.error _, after) => leaves after

section Ends

variable {leaves : Session → Prop} {gives : α → Session → Prop} {result : β → Session → Prop}

theorem on_bind
    (action : SessionAction α)
    (next : α → SessionAction β)
    (session : Session) :
    (action >>= next).on session =
      match action.on session with
      | (.ok value, after) => (next value).on after
      | (.error failure, after) => (.error failure, after) := by
  show (ExceptT.bindCont next (action session).1) (action session).2 = _
  rw [on]
  generalize action session = outcome
  rcases outcome with ⟨outcome, after⟩
  cases outcome with
  | error failure => rfl
  | ok value => rfl

theorem on_ofFunction
    (function : Session → Except Failure α × Session)
    (session : Session) :
    (ofFunction function).on session = function session := rfl

theorem Ends.bind
    {action : SessionAction α}
    {next : α → SessionAction β}
    (first :
      Ends session leaves action fun value middle => Ends middle leaves (next value) result) :
    Ends session leaves (action >>= next) result := by
  rw [Ends] at first
  rw [Ends, on_bind]
  generalize action.on session = outcome at first
  rcases outcome with ⟨outcome, after⟩
  cases outcome with
  | error failure => exact first
  | ok value => exact first

theorem Ends.mono
    {action : SessionAction α}
    {weaker : Session → Prop}
    {wider : α → Session → Prop}
    (ends : Ends session leaves action gives)
    (left : ∀ after, leaves after → weaker after)
    (given : ∀ value after, gives value after → wider value after) :
    Ends session weaker action wider := by
  rw [Ends] at ends ⊢
  generalize action.on session = outcome at ends
  rcases outcome with ⟨outcome, after⟩
  cases outcome with
  | error failure => exact left after ends
  | ok value => exact given value after ends

/-- An action that succeeds has done what it does where it gives a value. -/
theorem Ends.exists_gives
    {action : SessionAction α}
    (ends : Ends session leaves action gives)
    (succeeds : (action.on session).1.isOk = true) :
    ∃ value, gives value (action.on session).2 := by
  rw [Ends] at ends
  generalize action.on session = outcome at ends succeeds
  rcases outcome with ⟨outcome, after⟩
  cases outcome with
  | error failure => cases succeeds
  | ok value => exact ⟨value, ends⟩

/-- What holds for either outcome holds of the session after an action. -/
theorem Ends.snd
    {action : SessionAction α}
    (ends : Ends session leaves action fun _ after => leaves after) :
    leaves (action.on session).2 := by
  rw [Ends] at ends
  generalize action.on session = outcome at ends
  rcases outcome with ⟨outcome, after⟩
  cases outcome with
  | error failure => exact ends
  | ok value => exact ends

theorem ends_pure {value : α} (given : gives value session) :
    Ends session leaves (pure value) gives :=
  given

theorem ends_throw {failure : Failure} (left : leaves session) :
    Ends session leaves (throw failure : SessionAction α) gives :=
  left

theorem ends_get
    {seen : Session → Session → Prop}
    (given : seen session session) :
    Ends session leaves get seen :=
  given

theorem ends_modify
    {change : Session → Session}
    {given : Unit → Session → Prop}
    (changed : given () (change session)) :
    Ends session leaves (modify change) given :=
  changed

theorem ends_require
    {outcome : Except Failure α}
    (left : leaves session)
    (given : ∀ value, outcome = .ok value → gives value session) :
    Ends session leaves (require outcome) gives := by
  cases outcome with
  | error failure => exact left
  | ok value => exact given value rfl

theorem ends_named
    {entries : List (String × α)}
    {name : String}
    (left : leaves session)
    (given : ∀ value, entries.lookup name = some value → gives value session) :
    Ends session leaves (named entries name) gives := by
  apply ends_require left
  intro value isFound
  cases found : entries.lookup name with
  | none =>
      rw [found] at isFound
      cases isFound
  | some other =>
      rw [found] at isFound
      cases isFound
      exact given value found

theorem ends_held
    {name : String}
    {object : Held}
    {given : Held → Session → Prop}
    (isHeld : session.held.lookup name = some object)
    (isGiven : given object session) :
    Ends session leaves (held name) given := by
  apply Ends.bind
  apply ends_get
  rw [named, isHeld]
  exact isGiven

/-- Acting on a connection leaves what the action does there. -/
theorem ends_through
    {name : String}
    {action : Database α}
    (left : leaves session)
    (failed :
      ∀ (connection after : Connection) (failure : Failure),
        session.connections.lookup name = some connection →
          action.on { connection with journal := [] } = (.error failure, after) →
            leaves (session.acted name after))
    (given :
      ∀ (connection after : Connection) (value : α),
        session.connections.lookup name = some connection →
          action.on { connection with journal := [] } = (.ok value, after) →
            gives value (session.acted name after)) :
    Ends session leaves (through name action) gives := by
  apply Ends.bind
  apply ends_get
  apply Ends.bind
  apply ends_named left
  intro connection isFound
  show Ends session leaves (ofFunction _) gives
  rw [Ends, on_ofFunction]
  rcases acted : action.on { connection with journal := [] } with ⟨outcome, after⟩
  cases outcome with
  | error failure => exact failed connection after failure isFound acted
  | ok value => exact given connection after value isFound acted

end Ends

/-! ## What stays -/

/-- An action that changes nothing of what a view shows of the session, whatever its outcome. -/
def Keeps (view : Session → γ) (action : SessionAction α) : Prop :=
  ∀ session : Session, view (action.on session).2 = view session

section Keeps

variable {view : Session → γ}

theorem keeps_pure (value : α) : Keeps view (pure value : SessionAction α) :=
  fun _ => rfl

theorem keeps_throw (failure : Failure) : Keeps view (throw failure : SessionAction α) :=
  fun _ => rfl

theorem keeps_get : Keeps view (get : SessionAction Session) :=
  fun _ => rfl

theorem keeps_require (outcome : Except Failure α) : Keeps view (require outcome) :=
  fun _ => rfl

theorem keeps_named (entries : List (String × α)) (name : String) :
    Keeps view (named entries name) :=
  keeps_require _

theorem keeps_modify
    {change : Session → Session}
    (unseen : ∀ session, view (change session) = view session) :
    Keeps view (modify change : SessionAction Unit) :=
  unseen

theorem Keeps.bind
    {action : SessionAction α}
    {next : α → SessionAction β}
    (first : Keeps view action)
    (second : ∀ value, Keeps view (next value)) :
    Keeps view (action >>= next) := by
  intro session
  have kept := first session
  rw [on_bind]
  generalize action.on session = outcome at kept
  rcases outcome with ⟨outcome, after⟩
  cases outcome with
  | error failure => exact kept
  | ok value => exact (second value after).trans kept

theorem Keeps.map
    {action : SessionAction α}
    (keeps : Keeps view action)
    (function : α → β) :
    Keeps view (function <$> action) := by
  rw [map_eq_pure_bind]
  exact keeps.bind fun value => keeps_pure (function value)

/-- An action that keeps something leaves it as it is when it fails. -/
theorem Keeps.ends
    {action : SessionAction α}
    (keeps : Keeps view action)
    (session : Session) :
    Ends session (fun after => view after = view session) action fun value after =>
      action.on session = (.ok value, after) ∧ view after = view session := by
  have kept := keeps session
  rw [Ends]
  generalize action.on session = outcome at kept
  rcases outcome with ⟨outcome, after⟩
  cases outcome with
  | error failure => exact kept
  | ok value => exact ⟨rfl, kept⟩

theorem keeps_ofReport
    (unseen :
      ∀ (session : Session) (notices : List Notice),
        view { session with notices := notices } = view session)
    (report : Report α) :
    Keeps view (ofReport report) :=
  fun session => unseen session _

end Keeps

/-! ## Calls -/

/-- A view of a session that acting on a connection does not change. -/
def IgnoresConnections (view : Session → γ) : Prop :=
  ∀ (session : Session) (name : String) (after : Connection),
    view (session.acted name after) = view session

section Calls

variable {view : Session → γ}

theorem keeps_through
    (ignores : IgnoresConnections view)
    (name : String)
    (action : Database α) :
    Keeps view (through name action) := by
  refine keeps_get.bind fun seen => ?_
  refine (keeps_named seen.connections name).bind fun connection session => ?_
  exact ignores session name _

theorem keeps_streamOn (connection : String) (stream : Stream Entity) :
    Keeps view (streamOn connection stream) := by
  refine keeps_get.bind fun seen => ?_
  exact (keeps_named seen.connections connection).bind fun found => keeps_pure _

theorem keeps_definedClass (identity : Nat) : Keeps view (definedClass identity) := by
  refine keeps_get.bind fun seen => ?_
  cases seen.classes.class? identity with
  | none => exact keeps_throw _
  | some found => exact keeps_pure found

theorem keeps_refuseField (held : Held) (member : String) :
    Keeps view (refuseField held member) := by
  rw [refuseField]
  cases held.fields.lookup member with
  | none => exact keeps_pure ()
  | some value => exact keeps_throw _

theorem keeps_callOnClass
    (ignores : IgnoresConnections view)
    (connection : String)
    (table : TableClass)
    (call : TableCall)
    (arguments : List Value) :
    Keeps view (callOnClass connection table call arguments) := by
  rw [callOnClass.eq_def]
  split
  · exact (keeps_through ignores _ _).map _
  · exact keeps_get.bind fun seen => (keeps_through ignores _ _).map _
  · exact (keeps_require _).bind fun stream => keeps_streamOn connection stream
  · exact (keeps_require _).bind fun stream => keeps_streamOn connection stream
  · exact (keeps_through ignores _ _).map _
  · exact (keeps_through ignores _ _).bind fun _ => keeps_pure _
  · exact keeps_throw _

/-- Calling a member of a class keeps what calling it on an entity keeps. -/
theorem keeps_callTable
    {connection name member : String}
    {table : TableClass}
    {entity : Option Entity}
    {arguments : List Value}
    (ignores : IgnoresConnections view)
    (onEntity :
      ∀ (found : Entity) (call : TableCall),
        entity = some found → TableCall.ofName? table member = some call →
          Keeps view (callOnEntity connection name found call arguments)) :
    Keeps view (callTable connection name table entity member arguments) := by
  rw [callTable]
  cases isCall : TableCall.ofName? table member with
  | none => exact keeps_throw _
  | some call =>
      refine (keeps_require _).bind fun _ => ?_
      split
      · exact keeps_callOnClass ignores connection table call arguments
      · cases entity with
        | none => exact keeps_throw _
        | some found => exact onEntity found call rfl isCall

/-- Calling a member of a class keeps whatever does not show connections. -/
theorem keeps_call_definedClass
    (ignores : IgnoresConnections view)
    (connection name : String)
    (identity : Nat)
    (member : String)
    (arguments : List Value) :
    Keeps view (call connection name (.definedClass identity) member arguments) := by
  refine (keeps_refuseField _ member).bind fun _ => ?_
  refine (keeps_definedClass identity).bind fun found => ?_
  cases found with
  | table table =>
      apply keeps_callTable ignores
      intro entity call impossible
      cases impossible
  | patch number => exact keeps_throw _

theorem ignoresConnections_held : IgnoresConnections Session.held :=
  fun _ _ _ => rfl

end Calls

end SessionAction

/-- Whether a member of entities assigns fields of the entity that it is called on. -/
def TableCall.assigns : TableCall → Bool
  | .reload | .setter _ _ => true
  | _ => false

namespace SessionAction

/-- A member of an entity that assigns no field changes nothing that is held. -/
theorem keeps_callOnEntity
    (connection name : String)
    (entity : Entity)
    {call : TableCall}
    (assigns : call.assigns = false)
    (arguments : List Value) :
    Keeps Session.held (callOnEntity connection name entity call arguments) := by
  rw [callOnEntity.eq_def]
  split
  · exact (keeps_through ignoresConnections_held _ _).bind fun _ => keeps_pure _
  · cases assigns
  · exact (keeps_through ignoresConnections_held _ _).bind fun _ => keeps_pure _
  · cases assigns
  · exact (keeps_throw _).bind fun _ => keeps_pure _

theorem keeps_call_entity
    {entity : Entity}
    {member : String}
    (noAssignment :
      ∀ call : TableCall,
        TableCall.ofName? entity.table member = some call → call.assigns = false)
    (connection name : String)
    (arguments : List Value) :
    Keeps Session.held (call connection name (.entity entity) member arguments) := by
  refine (keeps_refuseField _ member).bind fun _ => ?_
  apply keeps_callTable ignoresConnections_held
  rintro found call ⟨⟩ isCall
  exact keeps_callOnEntity connection name entity (noAssignment call isCall) arguments

end SessionAction

end SqlMapping
