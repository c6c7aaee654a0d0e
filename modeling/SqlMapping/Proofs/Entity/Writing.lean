import SqlMapping.Proofs.Database.Exchange
import SqlMapping.Proofs.Entity.Changes

/-!
# Writing entities

What an operation that gives a result has executed is known, and so is what it gives.  A setter
has executed its statement with the value it gives, reloading gives what the row has, and patching
applies what it has written.

The main statements say this of setters, of reloading and of patching, and that a value which does
not fit and a patch for another backend lead to no call at all.
-/

namespace SqlMapping

open Database (require bound)

/-! ## What is executed -/

namespace Database

variable {α β : Type} {requests others : List Request}

/-- An action that has executed some statements, and no others, whenever it gives a value. -/
def Asks (requests : List Request) (action : Database α) : Prop :=
  ∀ (connection after : Connection) (value : α),
    action.on connection = (.ok value, after) →
      ∃ events, connection.LeadsTo events after ∧ requestsOf events = requests

theorem asks_require (result : Except Failure α) : Asks [] (require result) := by
  intro connection after value gives
  cases gives
  exact ⟨[], Connection.LeadsTo.refl connection, rfl⟩

theorem asks_pure (value : α) : Asks [] (pure value : Database α) :=
  asks_require (.ok value)

theorem exists_of_bind
    {action : Database α}
    {next : α → Database β}
    {connection after : Connection}
    {result : β}
    (gives : (action >>= next).on connection = (.ok result, after)) :
    ∃ (value : α) (middle : Connection),
      action.on connection = (.ok value, middle) ∧
        (next value).on middle = (.ok result, after) := by
  rw [on_bind] at gives
  cases first : action.on connection with
  | mk outcome middle =>
      rw [first] at gives
      cases outcome with
      | error failure => cases gives
      | ok value => exact ⟨value, middle, rfl, gives⟩

theorem Asks.bind
    {action : Database α}
    {next : α → Database β}
    (first : Asks requests action)
    (second : ∀ value, Asks others (next value)) :
    Asks (requests ++ others) (action >>= next) := by
  intro connection after result gives
  rcases exists_of_bind gives with ⟨value, middle, given, gives⟩
  rcases first connection middle value given with ⟨early, leads, asked⟩
  rcases second value middle after result gives with ⟨late, leadsOn, askedOn⟩
  refine ⟨early ++ late, leads.trans leadsOn, ?_⟩
  rw [requestsOf_append, asked, askedOn]

/-- A clean-up that executes nothing. -/
theorem Asks.followedBy
    {action : Database α}
    {call : Call}
    (asks : Asks requests action)
    (noRequest : call.request? = none) :
    Asks requests (action.followedBy fun connection => connection.record call true) := by
  intro connection after value gives
  rcases acted : action.on connection with ⟨result, middle⟩
  have closes :
      (action.followedBy fun connection => connection.record call true).on connection =
        ((action.on connection).1, (action.on connection).2.record call true) := rfl
  rw [closes, acted] at gives
  cases gives
  rcases asks connection middle value acted with ⟨events, leads, asked⟩
  refine ⟨events ++ [⟨call, true⟩], leads.trans (middle.leadsTo_record noRequest true), ?_⟩
  rw [requestsOf_append, asked]
  have none : requestsOf [⟨call, true⟩] = [] := List.filterMap_cons_none noRequest
  rw [none, List.append_nil]

theorem asks_openCursor (dialect : Option String) : Asks [] (openCursor dialect) := by
  intro connection after cursor gives
  have opening :
      (openCursor dialect).on connection =
        (({ connection with cursorCount := connection.cursorCount + 1 }.attempt
            (.openCursor connection.cursorCount
              (connection.cursorStyle (dialect = some preparedDialect)))
            (connection.faults.openCursor.or (connection.cursorFaults connection.cursorCount))
            ({ number := connection.cursorCount } : Cursor)).1.mapError (Failure.ofFault none),
          ({ connection with cursorCount := connection.cursorCount + 1 }.attempt
            (.openCursor connection.cursorCount
              (connection.cursorStyle (dialect = some preparedDialect)))
            (connection.faults.openCursor.or (connection.cursorFaults connection.cursorCount))
            ({ number := connection.cursorCount } : Cursor)).2) := rfl
  rw [opening] at gives
  cases fault :
      connection.faults.openCursor.or (connection.cursorFaults connection.cursorCount) with
  | some raised =>
      rw [fault] at gives
      cases gives
  | none =>
      rw [fault] at gives
      cases gives
      exact ⟨_, ⟨rfl, rfl, rfl, rfl, rfl, rfl⟩, rfl⟩

theorem asks_run (cursor : Cursor) (sql : String) (arguments : List Value) :
    Asks [(sql, some arguments)] (run cursor sql arguments) := by
  intro connection after next gives
  rcases connection.leadsTo_execute cursor sql (some arguments) with ⟨succeeded, leads⟩
  have same : after = (Connection.execute cursor sql (some arguments) connection).2 :=
    (congrArg Prod.snd gives).symm
  rw [same]
  exact ⟨_, leads, rfl⟩

/-- Acting on the reply of a statement executes nothing else than the statement. -/
theorem Asks.executing
    {use : Cursor → Database α}
    (uses : ∀ cursor, Asks [] (use cursor))
    (sql : String)
    (arguments : List Value)
    (dialect : Option String) :
    Asks [(sql, some arguments)] (executing sql arguments dialect use) := by
  have acts :
      Asks [(sql, some arguments)]
        (withCursor dialect fun cursor => run cursor sql arguments >>= use) := by
    refine (asks_openCursor dialect).bind fun cursor => ?_
    exact ((asks_run cursor sql arguments).bind uses).followedBy rfl
  intro connection after result gives
  rw [Database.executing, on_acquire] at gives
  split_ifs at gives
  · have returned :
        Asks [(sql, some arguments)]
          ((withCursor dialect fun cursor => run cursor sql arguments >>= use).followedBy
            Connection.giveBack) :=
      acts.followedBy rfl
    rcases returned connection.borrow after result gives with ⟨events, leads, asked⟩
    have borrows : connection.LeadsTo [⟨.borrow, true⟩] connection.borrow :=
      connection.leadsTo_record rfl true
    exact ⟨_, borrows.trans leads, asked⟩
  · exact acts connection after result gives

theorem asks_execute (sql : String) (arguments : List Value) (dialect : Option String) :
    Asks [(sql, some arguments)] (execute sql arguments dialect) :=
  Asks.executing (fun _ => asks_pure _) sql arguments dialect

theorem asks_fetchMany (size : Int) (cursor : Cursor) (sql : Option String) :
    Asks [] (driver sql (cursor.fetchMany size)) := by
  intro connection after rows gives
  have calls :
      (driver sql (cursor.fetchMany size)).on connection =
        (((connection.attempt (.fetchMany cursor.number size) cursor.fetchFault?
            (cursor.reply.rows.take size.toNat, cursor.advance size.toNat)).1.mapError
              (Failure.ofFault sql)),
          (connection.attempt (.fetchMany cursor.number size) cursor.fetchFault?
            (cursor.reply.rows.take size.toNat, cursor.advance size.toNat)).2) := rfl
  rw [calls] at gives
  cases fault : cursor.fetchFault? with
  | some raised =>
      rw [fault] at gives
      cases gives
  | none =>
      rw [fault] at gives
      cases gives
      exact ⟨_, connection.leadsTo_record rfl true, rfl⟩

/-- What is decoded from the one row that a statement gave. -/
theorem exists_of_fetchOne
    {decoder : Decoder α}
    {sql : String}
    {arguments : List Value}
    {dialect : Option String}
    {connection after : Connection}
    {value : α}
    (gives : (fetchOne decoder sql arguments dialect).on connection = (.ok value, after)) :
    (∃ row, decoder row = .ok value) ∧
      ∃ events,
        connection.LeadsTo events after ∧ requestsOf events = [(sql, some arguments)] := by
  rcases exists_of_bind gives with ⟨found, middle, fetched, gives⟩
  cases found with
  | none => cases gives
  | some other =>
      cases gives
      rcases exists_of_bind fetched with ⟨raw, last, isRaw, decoded⟩
      constructor
      · have isOnly : onlyRow? decoder sql raw = .ok (some value) := congrArg Prod.fst decoded
        rw [onlyRow?] at isOnly
        split at isOnly
        · cases isOnly
        · rename_i row isRow
          cases isDecoded : decodeRow decoder sql raw.names row with
          | error failure =>
              rw [isDecoded] at isOnly
              cases isOnly
          | ok other =>
              rw [isDecoded] at isOnly
              cases isOnly
              exact ⟨_, Outcome.mapError_eq_ok_iff.1 isDecoded⟩
        · cases isOnly
      · have fetches :
            Asks [(sql, some arguments)] (fetchRaw (Cursor.fetchMany 2) sql arguments dialect) := by
          refine Asks.executing (fun cursor => ?_) sql arguments dialect
          exact (asks_fetchMany 2 cursor (some sql)).bind fun rows => asks_pure _
        have same : last = after := congrArg Prod.snd decoded
        exact same ▸ fetches connection last raw isRaw

/-- A result that is known already and a follow-up give a value where both do. -/
theorem exists_of_require
    {result : Except Failure α}
    {next : α → Database β}
    {connection after : Connection}
    {value : β}
    (gives : (require result >>= next).on connection = (.ok value, after)) :
    ∃ known, result = .ok known ∧ (next known).on connection = (.ok value, after) := by
  rcases exists_of_bind gives with ⟨known, middle, isKnown, gives⟩
  cases isKnown
  exact ⟨known, rfl, gives⟩

end Database

/-! ## What is written -/

namespace Entity

variable {entity : Entity} {connection after : Connection}

/-- A setter that gives an entity has written the value that it read, and assigned it. -/
theorem exists_of_set
    {setter : Setter}
    {type : TypeRef}
    {value : Value}
    {changed : Entity}
    (gives : (entity.set setter type value).on connection = (.ok changed, after)) :
    ∃ (checked identifier : Value) (arguments : List Value) (events : List Event),
      type.read entity.table.own.style [] value = .ok checked ∧
        entity.identifier = .ok identifier ∧
        bound setter.statement [] [("value", checked), ("id", identifier)] = .ok arguments ∧
        connection.LeadsTo events after ∧
        requestsOf events = [(setter.statement.sql, some arguments)] ∧
        entity.assign setter.fieldName checked = .ok changed := by
  rcases Database.exists_of_require gives with ⟨checked, isChecked, gives⟩
  rcases Database.exists_of_require gives with ⟨identifier, isIdentifier, gives⟩
  rcases Database.exists_of_require gives with ⟨arguments, isBound, gives⟩
  rcases Database.exists_of_require gives with ⟨compiled, isCompiled, gives⟩
  rcases Database.exists_of_bind gives with ⟨affected, middle, executed, assigned⟩
  rcases Database.asks_execute _ _ _ _ _ _ executed with ⟨events, leads, asked⟩
  have isAssigned : entity.assign setter.fieldName checked = .ok changed :=
    congrArg Prod.fst assigned
  have same : middle = after := congrArg Prod.snd assigned
  exact
    ⟨checked, identifier, arguments, events, Outcome.mapError_eq_ok_iff.1 isChecked,
      isIdentifier, isBound, same ▸ leads, asked, isAssigned⟩

/-- A value that cannot be read for a setter leads to no call. -/
theorem snd_on_set_of_unread
    {setter : Setter}
    {type : TypeRef}
    {value : Value}
    (unread : ∀ checked, type.read entity.table.own.style [] value ≠ .ok checked) :
    ((entity.set setter type value).on connection).2 = connection := by
  rw [set, Database.on_bind]
  cases isRead : type.read entity.table.own.style [] value with
  | error issues => rfl
  | ok checked => exact absurd isRead (unread checked)

/-- Reloading gives what assigning the fields of the row gives that was fetched. -/
theorem exists_of_reload
    {assigned : Assigned Entity}
    (gives : entity.reload.on connection = (.ok assigned, after)) :
    ∃ (identifier : Value) (fresh : Entity),
      entity.identifier = .ok identifier ∧
        (entity.table.get identifier).on connection = (.ok fresh, after) ∧
        assigned = .ofNames assign (fieldValue fresh.fields) entity entity.table.fieldNames := by
  rcases Database.exists_of_require gives with ⟨identifier, isIdentifier, gives⟩
  rcases Database.exists_of_bind gives with ⟨fresh, middle, fetched, gives⟩
  cases gives
  exact ⟨identifier, fresh, isIdentifier, fetched, rfl⟩

/-- An entity that is fetched has the class that was asked and a value for each of its fields. -/
theorem exists_of_get
    {table : TableClass}
    {identifier : Value}
    {fresh : Entity}
    (gives : (table.get identifier).on connection = (.ok fresh, after)) :
    fresh.table = table ∧ fresh.IsComplete ∧
      ∃ (compiled : CompiledTable) (arguments : List Value) (events : List Event),
        table.statements = .ok compiled ∧
          bound compiled.plan.get [] [("id", identifier)] = .ok arguments ∧
          connection.LeadsTo events after ∧
          requestsOf events = [(compiled.plan.get.sql, some arguments)] := by
  rcases Database.exists_of_require gives with ⟨compiled, isCompiled, gives⟩
  rcases Database.exists_of_require gives with ⟨arguments, isBound, gives⟩
  rcases Database.exists_of_fetchOne gives with ⟨⟨row, decoded⟩, events, leads, asked⟩
  cases isRead : table.model.readEntries row with
  | error issues =>
      rw [TableClass.decoder, isRead] at decoded
      cases decoded
  | ok fields =>
      rw [TableClass.decoder, isRead] at decoded
      cases decoded
      have complete := Model.map_fst_of_readEntries isRead
      have names : table.model.fieldNames = table.fieldNames := List.map_map
      exact
        ⟨rfl, complete.trans names, compiled, arguments, events, isCompiled, isBound, leads, asked⟩

/-- Patching gives what applying the patch gives, and has written the patch before. -/
theorem exists_of_patch
    {row : PatchRow}
    {patchName : String}
    {compiled : CompiledPatch}
    {applied : Assigned Entity}
    (gives : (entity.patch row patchName compiled).on connection = (.ok applied, after)) :
    entity.checkBackend patchName compiled = .ok () ∧
      applied = row.applyTo compiled assign entity ∧
      ∃ (identifier : Value) (arguments : List Value) (events : List Event),
        entity.identifier = .ok identifier ∧
          bound compiled.plan.statement row.fields [("id", identifier)] = .ok arguments ∧
          connection.LeadsTo events after ∧
          requestsOf events = [(compiled.plan.statement.sql, some arguments)] := by
  rcases Database.exists_of_require gives with ⟨⟨⟩, isChecked, gives⟩
  rcases Database.exists_of_require gives with ⟨identifier, isIdentifier, gives⟩
  rcases Database.exists_of_require gives with ⟨⟨⟩, -, gives⟩
  rcases Database.exists_of_bind gives with ⟨⟨⟩, middle, written, gives⟩
  rcases Database.exists_of_require gives with ⟨⟨⟩, -, gives⟩
  rcases Database.exists_of_require written with ⟨arguments, isBound, written⟩
  rcases Database.exists_of_bind written with ⟨affected, last, executed, ends⟩
  rcases Database.asks_execute _ _ _ _ _ _ executed with ⟨events, leads, asked⟩
  cases ends
  cases gives
  exact ⟨isChecked, rfl, identifier, arguments, events, isIdentifier, isBound, leads, asked⟩

/-- A patch for another backend leads to no call. -/
theorem snd_on_patch_of_otherBackend
    {row : PatchRow}
    {patchName : String}
    {compiled : CompiledPatch}
    (refused : entity.checkBackend patchName compiled ≠ .ok ()) :
    ((entity.patch row patchName compiled).on connection).2 = connection := by
  rw [patch, Database.on_bind]
  cases checked : entity.checkBackend patchName compiled with
  | error failure => rfl
  | ok accepted => exact absurd checked refused

end Entity

end SqlMapping
