import SqlMapping.Proofs.Database.Exchange

/-!
# Holdings

What is held of a handle is known from its events: a connection that was borrowed and not yet
returned, and the cursors that were opened and not yet closed.  An event is out of place if it
uses or closes a cursor that is not open, or returns a connection that was not borrowed or that
still has open cursors.

The main statements say what actions hold when they end, on every connection whose faults are
ordinary, and that a call which fails makes the action fail with a failure of the connection.
-/

namespace SqlMapping

/-- What is held of a handle. -/
structure Holdings where
  /-- A connection is borrowed. -/
  isLent : Bool := false
  /-- The cursors that are open. -/
  cursors : List Nat := []
deriving DecidableEq

namespace Holdings

/-- Nothing is held. -/
def empty : Holdings := {}

/-- What is held to work on a handle, before a cursor is opened. -/
def access (isPool : Bool) : Holdings := { isLent := isPool }

/-- A cursor is held besides. -/
def opening (held : Holdings) (number : Nat) : Holdings :=
  { held with cursors := number :: held.cursors }

/-- What is held after an event; nothing is said of an event that is out of place. -/
def after? (held : Holdings) (event : Event) : Option Holdings :=
  match event.call with
  | .openCursor number _ =>
    if number ∈ held.cursors then none
    else if event.succeeded then some (held.opening number)
    else some held
  | .execute number _ _ | .fetchOne number | .fetchMany number _ | .fetchAll number =>
    if number ∈ held.cursors then some held else none
  | .closeCursor number =>
    if number ∈ held.cursors then some { held with cursors := held.cursors.erase number }
    else none
  | .commit | .rollback => some held
  | .borrow => if held.isLent then none else some { held with isLent := true }
  | .giveBack =>
    if held.isLent = true ∧ held.cursors = [] then some { held with isLent := false } else none

/-- What is held after some events, all of which are in place. -/
def afterAll? (held : Holdings) (events : List Event) : Option Holdings :=
  events.foldlM after? held

variable {held middle left : Holdings}

theorem afterAll?_append
    {early late : List Event}
    (first : held.afterAll? early = some middle)
    (second : middle.afterAll? late = some left) :
    held.afterAll? (early ++ late) = some left := by
  rw [afterAll?, List.foldlM_append, ← afterAll?, first]
  exact second

theorem afterAll?_singleton
    {event : Event}
    (inPlace : held.after? event = some left) :
    held.afterAll? [event] = some left := by
  rw [afterAll?, List.foldlM_cons, inPlace]
  rfl

/-- A cursor that is closed was the last one to be opened. -/
theorem after?_close_opening (held : Holdings) (number : Nat) :
    (held.opening number).after? ⟨.closeCursor number, true⟩ = some held := by
  have isOpen : number ∈ (held.opening number).cursors := List.mem_cons_self
  rw [after?]
  dsimp only
  rw [if_pos isOpen, opening]
  simp only [List.erase_cons_head]

end Holdings

/-! ## Ordinary faults -/

/-- Whatever the statement of a reply raises is ordinary. -/
structure Reply.IsOrdinary (reply : Reply) : Prop where
  executes : ∀ fault ∈ reply.fault, fault.kind = .ordinary
  fetches : ∀ fault ∈ reply.fetchFault, fault.1.kind = .ordinary

/-- A failure that stands for an ordinary fault of the driver. -/
def Failure.IsConnection (failure : Failure) : Prop :=
  ∃ (name shown : String) (sql : Option String), failure = .connection name shown sql

theorem Failure.isConnection_ofFault
    {fault : Fault}
    (isOrdinary : fault.kind = .ordinary)
    (sql : Option String) :
    (Failure.ofFault sql fault).IsConnection := by
  refine ⟨fault.name, fault.shown, sql, ?_⟩
  rw [Failure.ofFault, isOrdinary]

theorem Reply.isOrdinary_default : ({} : Reply).IsOrdinary where
  executes fault member := by cases member
  fetches fault member := by cases member

namespace Connection

/-- Whatever the driver raises is ordinary. -/
structure IsOrdinary (connection : Connection) : Prop where
  opens : ∀ fault ∈ connection.faults.openCursor, fault.kind = .ordinary
  opensEach : ∀ number, ∀ fault ∈ connection.cursorFaults number, fault.kind = .ordinary
  commits : ∀ fault ∈ connection.faults.commit, fault.kind = .ordinary
  undoes : ∀ fault ∈ connection.faults.rollback, fault.kind = .ordinary
  replies : ∀ reply ∈ connection.replies, reply.IsOrdinary

variable {before middle after connection : Connection} {held left : Holdings}
  {events : List Event}

theorem LeadsTo.isOrdinary
    (leads : before.LeadsTo events after)
    (isOrdinary : before.IsOrdinary) :
    after.IsOrdinary := by
  constructor
  case opens =>
    rw [leads.faults]
    exact isOrdinary.opens
  case opensEach =>
    rw [leads.cursorFaults]
    exact isOrdinary.opensEach
  case commits =>
    rw [leads.faults]
    exact isOrdinary.commits
  case undoes =>
    rw [leads.faults]
    exact isOrdinary.undoes
  case replies =>
    intro reply member
    rw [leads.replies] at member
    exact isOrdinary.replies reply (List.mem_of_mem_drop member)

theorem IsOrdinary.headD (isOrdinary : connection.IsOrdinary) :
    (connection.replies.headD {}).IsOrdinary := by
  cases replies : connection.replies with
  | nil => exact Reply.isOrdinary_default
  | cons reply rest =>
      apply isOrdinary.replies reply
      rw [replies]
      exact List.mem_cons_self

/-! ## What is held between two states -/

/-- The open cursors have been numbered already. -/
def Owns (connection : Connection) (held : Holdings) : Prop :=
  ∀ number ∈ held.cursors, number < connection.cursorCount

theorem owns_empty (connection : Connection) : connection.Owns .empty := by
  intro number member
  cases member

/-- The events between two states of a connection, and what they change of what is held. -/
structure Carries
    (before : Connection)
    (held : Holdings)
    (events : List Event)
    (after : Connection)
    (left : Holdings) :
    Prop where
  leads : before.LeadsTo events after
  holds : held.afterAll? events = some left
  owns : after.Owns left

theorem Carries.refl (owns : connection.Owns held) :
    connection.Carries held [] connection held where
  leads := LeadsTo.refl connection
  holds := rfl
  owns := owns

theorem Carries.trans
    {kept : Holdings}
    {others : List Event}
    (first : before.Carries held events middle kept)
    (second : middle.Carries kept others after left) :
    before.Carries held (events ++ others) after left where
  leads := first.leads.trans second.leads
  holds := Holdings.afterAll?_append first.holds second.holds
  owns := second.owns

/-- A call that opens nothing and executes nothing. -/
theorem carries_record
    (owns : connection.Owns held)
    {call : Call}
    {succeeded : Bool}
    (noRequest : call.request? = none)
    (inPlace : held.after? ⟨call, succeeded⟩ = some left)
    (within : left.cursors ⊆ held.cursors) :
    connection.Carries held [⟨call, succeeded⟩] (connection.record call succeeded) left where
  leads := connection.leadsTo_record noRequest succeeded
  holds := Holdings.afterAll?_singleton inPlace
  owns := fun number member => owns number (within member)

theorem carries_closeCursor
    {number : Nat}
    (owns : connection.Owns (held.opening number)) :
    connection.Carries (held.opening number) [⟨.closeCursor number, true⟩]
      (connection.closeCursor number) held :=
  carries_record owns rfl (held.after?_close_opening number) (List.subset_cons_self _ _)

/-! ## Outcomes -/

/-- A failed call among some events has become the failure of the outcome. -/
def Surfaces {α : Type} (events : List Event) (result : Except Failure α) : Prop :=
  (∀ event ∈ events, event.succeeded = true) ∨
    ∃ failure : Failure, result = .error failure ∧ failure.IsConnection

theorem surfaces_append
    {α : Type}
    {others : List Event}
    {result : Except Failure α}
    (allSucceed : ∀ event ∈ events, event.succeeded = true)
    (surfaces : Surfaces others result) :
    Surfaces (events ++ others) result := by
  rcases surfaces with othersSucceed | fails
  · left
    intro event member
    rcases List.mem_append.1 member with early | late
    · exact allSucceed event early
    · exact othersSucceed event late
  · exact .inr fails

theorem Surfaces.append
    {α : Type}
    {others : List Event}
    {result : Except Failure α}
    (surfaces : Surfaces events result)
    (othersSucceed : ∀ event ∈ others, event.succeeded = true) :
    Surfaces (events ++ others) result := by
  rcases surfaces with allSucceed | fails
  · exact surfaces_append allSucceed (.inl othersSucceed)
  · exact .inr fails

/-- What is held changes from one to the other, whatever the outcome, and a value has a property. -/
def Yields
    {α : Type}
    (before : Connection)
    (held : Holdings)
    (outcome : Except Failure α × Connection)
    (left : Holdings)
    (gives : α → Prop) :
    Prop :=
  (∃ events, before.Carries held events outcome.2 left ∧ Surfaces events outcome.1) ∧
    ∀ value, outcome.1 = .ok value → gives value

variable {α : Type} {outcome : Except Failure α × Connection} {gives : α → Prop}

theorem Yields.isOrdinary
    (yields : before.Yields held outcome left gives)
    (isOrdinary : before.IsOrdinary) :
    outcome.2.IsOrdinary := by
  rcases yields with ⟨⟨events, carries, -⟩, -⟩
  exact carries.leads.isOrdinary isOrdinary

theorem Carries.trans_yields
    {kept : Holdings}
    (carries : before.Carries held events middle kept)
    (allSucceed : ∀ event ∈ events, event.succeeded = true)
    (yields : middle.Yields kept outcome left gives) :
    before.Yields held outcome left gives := by
  rcases yields with ⟨⟨others, carriesOn, surfaces⟩, isGiven⟩
  refine ⟨⟨events ++ others, carries.trans carriesOn, ?_⟩, isGiven⟩
  exact surfaces_append allSucceed surfaces

/-- What happens after the outcome is known may release what is still held. -/
theorem Yields.trans
    {kept : Holdings}
    (yields : before.Yields held outcome kept gives)
    (carries : outcome.2.Owns kept → outcome.2.Carries kept events after left)
    (allSucceed : ∀ event ∈ events, event.succeeded = true) :
    before.Yields held (outcome.1, after) left gives := by
  rcases yields with ⟨⟨others, carriesFirst, surfaces⟩, isGiven⟩
  have carriesOn := carries carriesFirst.owns
  exact ⟨⟨others ++ events, carriesFirst.trans carriesOn, surfaces.append allSucceed⟩, isGiven⟩

/-- A value is given only if every call so far has succeeded. -/
theorem Yields.exists_carries
    {value : α}
    (yields : before.Yields held (.ok value, after) left gives) :
    ∃ events,
      before.Carries held events after left ∧ ∀ event ∈ events, event.succeeded = true := by
  rcases yields with ⟨⟨events, carries, surfaces⟩, -⟩
  rcases surfaces with allSucceed | ⟨failure, impossible, -⟩
  · exact ⟨events, carries, allSucceed⟩
  · cases impossible

theorem Yields.error
    {β : Type}
    {failure : Failure}
    {result : β → Prop}
    (yields : before.Yields held ((.error failure : Except Failure α), after) left gives) :
    before.Yields held ((.error failure : Except Failure β), after) left result := by
  rcases yields with ⟨⟨events, carries, surfaces⟩, -⟩
  refine ⟨⟨events, carries, ?_⟩, ?_⟩
  · rcases surfaces with allSucceed | ⟨other, same, isConnection⟩
    · exact .inl allSucceed
    · cases same
      exact .inr ⟨failure, rfl, isConnection⟩
  · intro value impossible
    cases impossible

theorem Yields.map
    {β : Type}
    {result : Except Failure α}
    (yields : before.Yields held (result, after) left gives)
    (function : α → β) :
    before.Yields held (result.map function, after) left fun _ => True := by
  cases result with
  | error failure => exact yields.error
  | ok value =>
      rcases yields.exists_carries with ⟨events, carries, allSucceed⟩
      exact ⟨⟨events, carries, .inl allSucceed⟩, fun _ _ => trivial⟩

theorem yields_of_result
    (owns : connection.Owns held)
    {result : Except Failure α}
    (isGiven : ∀ value, result = .ok value → gives value) :
    connection.Yields held (result, connection) held gives := by
  refine ⟨⟨[], Carries.refl owns, .inl ?_⟩, isGiven⟩
  intro event member
  cases member

/-- A call on the driver whose fault, if it raises one, is ordinary. -/
theorem yields_attempt
    {call : Call}
    (recorded :
      ∀ succeeded, before.Carries held [⟨call, succeeded⟩] (connection.record call succeeded) held)
    {fault : Option Fault}
    (isOrdinary : ∀ raised ∈ fault, raised.kind = .ordinary)
    (sql : Option String)
    {value : α}
    (isGiven : gives value) :
    before.Yields held
      ((connection.attempt call fault value).1.mapError (Failure.ofFault sql),
        (connection.attempt call fault value).2)
      held gives := by
  cases fault with
  | none =>
      refine ⟨⟨_, recorded true, .inl ?_⟩, ?_⟩
      · intro event member
        rw [List.mem_singleton.1 member]
      · rintro _ ⟨⟩
        exact isGiven
  | some raised =>
      refine ⟨⟨_, recorded false, .inr ⟨_, rfl, ?_⟩⟩, ?_⟩
      · exact Failure.isConnection_ofFault (isOrdinary raised rfl) sql
      · intro other impossible
        cases impossible

theorem Carries.yields_of_isConnection
    {failure : Failure}
    (carries : before.Carries held events after left)
    (isConnection : failure.IsConnection) :
    before.Yields held ((.error failure : Except Failure α), after) left gives := by
  refine ⟨⟨events, carries, .inr ⟨failure, rfl, isConnection⟩⟩, ?_⟩
  intro value impossible
  cases impossible

theorem fault_of_attempt
    {call : Call}
    {fault : Option Fault}
    {value : α}
    {raised : Fault}
    (fails : (connection.attempt call fault value).1 = .error raised) :
    fault = some raised := by
  cases fault with
  | none => cases fails
  | some other =>
      cases fails
      rfl

end Connection

end SqlMapping
