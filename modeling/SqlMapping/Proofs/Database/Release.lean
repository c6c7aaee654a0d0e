import SqlMapping.Proofs.Database.Holdings
import SqlMapping.Proofs.Outcome

/-!
# Release

An action takes what it needs of a handle and releases it, on every outcome: a cursor that is
opened for an action is closed after it, and a connection that is borrowed for it is returned
after that.  A unit of work holds nothing beyond the statements that open and end it.

The main statements give, for the ways in which actions are made, what the action holds when it
ends, and that no failed call is lost on the way.
-/

namespace SqlMapping

open Connection (Carries Owns Yields)

namespace Database

variable {α β : Type} {held middle left : Holdings} {gives : α → Prop}

/-- An action takes what is held to something else, whatever its outcome. -/
def Takes
    (held left : Holdings)
    (action : Database α)
    (gives : α → Prop) :
    Prop :=
  ∀ connection : Connection,
    connection.IsOrdinary →
      connection.Owns held → connection.Yields held (action.on connection) left gives

/-- An action that calls nothing, and so leaves things as they are held. -/
theorem takes_require
    (held : Holdings)
    {result : Except Failure α}
    (isGiven : ∀ value, result = .ok value → gives value) :
    Takes held held (require result) gives :=
  fun _ _ owns => Connection.yields_of_result owns isGiven

theorem takes_pure (held : Holdings) {value : α} (isGiven : gives value) :
    Takes held held (pure value : Database α) gives := by
  apply takes_require held
  rintro _ ⟨⟩
  exact isGiven

theorem takes_throw (held : Holdings) (failure : Failure) :
    Takes held held (throw failure : Database α) gives := by
  apply takes_require held
  intro value impossible
  cases impossible

/-- The second of two actions has to keep what the first one leaves. -/
theorem Takes.bind
    {action : Database α}
    {next : α → Database β}
    {result : β → Prop}
    (first : Takes held left action gives)
    (second : ∀ value, gives value → Takes left left (next value) result) :
    Takes held left (action >>= next) result := by
  intro connection isOrdinary owns
  have yields := first connection isOrdinary owns
  have ordinaryAfter := yields.isOrdinary isOrdinary
  rw [on_bind]
  generalize action.on connection = outcome at yields ordinaryAfter
  rcases outcome with ⟨outcome, after⟩
  cases outcome with
  | error failure => exact yields.error
  | ok value =>
      have isGiven := yields.2 value rfl
      rcases yields.exists_carries with ⟨events, carries, allSucceed⟩
      exact carries.trans_yields allSucceed (second value isGiven after ordinaryAfter carries.owns)

/-- Any pure follow-up of an action. -/
theorem Takes.map
    {action : Database α}
    {function : α → β}
    (takes : Takes held left action gives) :
    Takes held left (action >>= fun value => pure (function value)) fun _ => True :=
  takes.bind fun _ _ => takes_pure left trivial

/-! ## Calls -/

/-- A call that uses an open cursor changes nothing of what is held. -/
theorem takes_fetch
    {call : Connection → Except Fault α × Connection}
    {request : Call}
    {cursor : Cursor}
    {value : α}
    (isFetch : ∀ connection : Connection,
      call connection = connection.attempt request cursor.fetchFault? value)
    (noRequest : request.request? = none)
    (inPlace : ∀ succeeded, held.after? ⟨request, succeeded⟩ = some held)
    (isOrdinary : cursor.reply.IsOrdinary)
    (sql : Option String)
    (isGiven : gives value) :
    Takes held held (driver sql call) gives := by
  intro connection _ owns
  have faults : ∀ raised ∈ cursor.fetchFault?, raised.kind = .ordinary := by
    intro raised member
    rw [Cursor.fetchFault?] at member
    cases fetchFault : cursor.reply.fetchFault with
    | none =>
        rw [fetchFault] at member
        cases member
    | some fault =>
        rw [fetchFault] at member
        dsimp only at member
        split_ifs at member
        · rw [← Option.some.inj member]
          exact isOrdinary.fetches fault fetchFault
        · cases member
  show connection.Yields held
    ((call connection).1.mapError (Failure.ofFault sql), (call connection).2) held gives
  rw [isFetch connection]
  refine Connection.yields_attempt ?_ faults sql isGiven
  exact fun succeeded =>
    Connection.carries_record owns noRequest (inPlace succeeded) (List.Subset.refl _)

/-- An execution gives a cursor of the same number, on whose reply rows can be fetched. -/
theorem takes_execute
    {cursor : Cursor}
    (isOpen : cursor.number ∈ held.cursors)
    (sql : String)
    (arguments : Option (List Value)) :
    Takes held held (driver (some sql) (Connection.execute cursor sql arguments)) fun next =>
      next.number = cursor.number ∧ next.reply.IsOrdinary := by
  intro connection isOrdinary owns
  have answer := isOrdinary.headD
  refine Connection.yields_attempt ?_ answer.executes (some sql) ⟨rfl, answer⟩
  intro succeeded
  constructor
  · exact ⟨rfl, List.drop_one.symm, rfl, rfl, rfl, rfl⟩
  · exact Holdings.afterAll?_singleton (if_pos isOpen)
  · exact owns

/-- Opening a cursor fails and leaves things as they are, or it gives a cursor that is held. -/
theorem openCursor_cases
    {connection : Connection}
    (isOrdinary : connection.IsOrdinary)
    (owns : connection.Owns held)
    (sql : Option String)
    (prepares : Bool) :
    (∃ (failure : Failure) (after : Connection),
        (driver sql (Connection.openCursor prepares)).on connection = (.error failure, after) ∧
          connection.Yields held ((.error failure : Except Failure Cursor), after) held
            fun _ => True) ∨
      ∃ (cursor : Cursor) (after : Connection) (events : List Event),
        (driver sql (Connection.openCursor prepares)).on connection = (.ok cursor, after) ∧
          connection.Carries held events after (held.opening cursor.number) ∧
          (∀ event ∈ events, event.succeeded = true) := by
  have isFresh : connection.cursorCount ∉ held.cursors := by
    intro member
    exact Nat.lt_irrefl _ (owns _ member)
  let call : Call := .openCursor connection.cursorCount (connection.cursorStyle prepares)
  let numbered : Connection := { connection with cursorCount := connection.cursorCount + 1 }
  have leads (succeeded : Bool) :
      connection.LeadsTo [⟨call, succeeded⟩] (numbered.record call succeeded) :=
    ⟨rfl, rfl, rfl, rfl, rfl, rfl⟩
  have opening :
      (driver sql (Connection.openCursor prepares)).on connection =
        ((numbered.attempt call
            (connection.faults.openCursor.or (connection.cursorFaults connection.cursorCount))
            ({ number := connection.cursorCount } : Cursor)).1.mapError (Failure.ofFault sql),
          (numbered.attempt call
            (connection.faults.openCursor.or (connection.cursorFaults connection.cursorCount))
            ({ number := connection.cursorCount } : Cursor)).2) := rfl
  cases fault :
      connection.faults.openCursor.or (connection.cursorFaults connection.cursorCount) with
  | some raised =>
      have raisedOrdinary : raised.kind = .ordinary := by
        rcases Option.or_eq_some_iff.1 fault with always | ⟨-, once⟩
        · exact isOrdinary.opens raised always
        · exact isOrdinary.opensEach _ raised once
      left
      rw [opening, fault]
      refine ⟨_, _, rfl, ⟨[⟨call, false⟩], ⟨leads false, ?_, ?_⟩, .inr ⟨_, rfl, ?_⟩⟩, ?_⟩
      · exact Holdings.afterAll?_singleton (if_neg isFresh)
      · exact fun number member => Nat.lt_succ_of_lt (owns number member)
      · exact Failure.isConnection_ofFault raisedOrdinary sql
      · intro value impossible
        cases impossible
  | none =>
      right
      rw [opening, fault]
      refine ⟨_, _, [⟨call, true⟩], rfl, ⟨leads true, ?_, ?_⟩, ?_⟩
      · exact Holdings.afterAll?_singleton (if_neg isFresh)
      · intro number member
        rcases List.mem_cons.1 member with rfl | earlier
        · exact Nat.lt_succ_self _
        · exact Nat.lt_succ_of_lt (owns number earlier)
      · intro event member
        rw [List.mem_singleton.1 member]

/-! ## Cursors and borrowed connections -/

theorem Takes.closing
    {number : Nat}
    {action : Database α}
    (takes : Takes (held.opening number) (held.opening number) action gives) :
    Takes (held.opening number) held (action.followedBy (Connection.closeCursor number)) gives := by
  intro connection isOrdinary owns
  refine (takes connection isOrdinary owns).trans Connection.carries_closeCursor ?_
  intro event member
  rw [List.mem_singleton.1 member]

/-- What is done on a new cursor has to end with the cursor closed. -/
theorem takes_opening
    {next : Cursor → Database α}
    (takes : ∀ cursor, Takes (held.opening cursor.number) held (next cursor) gives)
    (sql : Option String)
    (prepares : Bool) :
    Takes held held (driver sql (Connection.openCursor prepares) >>= next) gives := by
  intro connection isOrdinary owns
  rw [on_bind]
  rcases openCursor_cases isOrdinary owns sql prepares with
    ⟨failure, after, opened, yields⟩ | ⟨cursor, after, events, opened, carries, allSucceed⟩
  · rw [opened]
    exact yields.error
  · rw [opened]
    apply carries.trans_yields allSucceed
    exact takes cursor after (carries.leads.isOrdinary isOrdinary) carries.owns

theorem takes_withCursor
    {action : Cursor → Database α}
    (takes :
      ∀ cursor,
        Takes (held.opening cursor.number) (held.opening cursor.number) (action cursor) gives)
    (dialect : Option String) :
    Takes held held (withCursor dialect action) gives :=
  takes_opening (fun cursor => (takes cursor).closing) none _

theorem carries_borrow (connection : Connection) :
    connection.Carries .empty [⟨.borrow, true⟩] connection.borrow (.access true) :=
  Connection.carries_record connection.owns_empty rfl rfl (List.Subset.refl _)

theorem carries_giveBack (connection : Connection) :
    connection.Carries (.access true) [⟨.giveBack, true⟩] connection.giveBack .empty := by
  have owns : connection.Owns (.access true) := connection.owns_empty
  exact Connection.carries_record owns rfl rfl (List.Subset.refl _)

/-- A borrowed connection is returned, whatever is done on it. -/
theorem takes_acquire
    {action : Endpoint → Database α}
    (takes : ∀ held endpoint, Takes held held (action endpoint) gives) :
    Takes .empty .empty (acquire action) gives := by
  intro connection isOrdinary owns
  rw [on_acquire]
  have succeeds (call : Call) : ∀ event ∈ [Event.mk call true], event.succeeded = true := by
    intro event member
    rw [List.mem_singleton.1 member]
  split_ifs
  · have borrows := carries_borrow connection
    apply borrows.trans_yields (succeeds _)
    refine
      (takes (.access true) .borrowed connection.borrow (borrows.leads.isOrdinary isOrdinary)
        borrows.owns).trans (fun _ => carries_giveBack _) (succeeds _)
  · exact takes .empty .handle connection isOrdinary owns

/-! ## Failures of the connection -/

/-- Every failure of an action is a failure of the connection. -/
def Reports (action : Database α) : Prop :=
  ∀ connection : Connection,
    connection.IsOrdinary →
      ∀ failure, (action.on connection).1 = .error failure → failure.IsConnection

theorem reports_pure (value : α) : Reports (pure value : Database α) := by
  intro connection _ failure impossible
  cases impossible

theorem reports_driver
    {sql : Option String}
    {call : Connection → Except Fault α × Connection}
    (raises :
      ∀ connection : Connection,
        connection.IsOrdinary →
          ∀ fault, (call connection).1 = .error fault → fault.kind = .ordinary) :
    Reports (driver sql call) := by
  intro connection isOrdinary failure failed
  have mapped : (call connection).1.mapError (Failure.ofFault sql) = .error failure := failed
  rcases Outcome.mapError_eq_error_iff.1 mapped with ⟨fault, isFault, rfl⟩
  exact Failure.isConnection_ofFault (raises connection isOrdinary fault isFault) sql

theorem Reports.bind
    {action : Database α}
    {next : α → Database β}
    (first : Reports action)
    (proceeds : Proceeds action)
    (second : ∀ value, Reports (next value)) :
    Reports (action >>= next) := by
  intro connection isOrdinary failure failed
  have reports := first connection isOrdinary
  rcases proceeds connection with ⟨events, leads⟩
  have ordinaryAfter := leads.isOrdinary isOrdinary
  rw [on_bind] at failed
  generalize action.on connection = outcome at failed reports ordinaryAfter
  rcases outcome with ⟨result, after⟩
  cases result with
  | error other =>
      cases failed
      exact reports failure rfl
  | ok value => exact second value after ordinaryAfter failure failed

theorem reports_control (sql : String) : Reports (control sql) := by
  refine Reports.bind ?_ (proceeds_openCursor (some sql) false) fun cursor => ?_
  · apply reports_driver
    intro connection isOrdinary fault raised
    rcases Option.or_eq_some_iff.1 (Connection.fault_of_attempt raised) with always | ⟨-, once⟩
    · exact isOrdinary.opens fault always
    · exact isOrdinary.opensEach _ fault once
  · have executes : Reports (driver (some sql) (Connection.execute cursor sql none)) := by
      apply reports_driver
      intro connection isOrdinary fault raised
      exact isOrdinary.headD.executes fault (Connection.fault_of_attempt raised)
    have closes :=
      (proceeds_execute cursor sql none).followedBy
        (Connection.exists_leadsTo_closeCursor cursor.number)
    -- Closing the cursor changes nothing of the outcome.
    have closed :
        Reports ((driver (some sql) (Connection.execute cursor sql none)).followedBy
          (Connection.closeCursor cursor.number)) := executes
    exact closed.bind closes fun _ => reports_pure ()

/-! ## Units of work -/

theorem takes_control (held : Holdings) (sql : String) :
    Takes held held (control sql) fun _ => True := by
  apply takes_opening
  intro cursor
  exact (takes_execute List.mem_cons_self sql none).closing.map

theorem takes_beginWork (held : Holdings) (endpoint : Endpoint) (beginSql : String) :
    Takes held held (beginWork endpoint beginSql) fun _ => True := by
  intro connection isOrdinary owns
  rw [on_beginWork]
  cases (connection.attributesAt endpoint).isInTransaction with
  | error failure => exact Connection.yields_of_result owns fun _ _ => trivial
  | ok isOpen =>
      cases isOpen with
      | true => exact Connection.yields_of_result owns fun _ _ => trivial
      | false =>
          dsimp only
          split_ifs
          · exact (takes_control held beginSql).map connection isOrdinary owns
          · exact Connection.yields_of_result owns fun _ _ => trivial

/-- A call that ends a transaction, if the handle has it, uses no cursor. -/
theorem takes_ending
    {endpoint : Endpoint}
    {call : Call}
    {name : String}
    {fault : Connection → Option Fault}
    (isOrdinary :
      ∀ connection : Connection,
        connection.IsOrdinary → ∀ raised ∈ fault connection, raised.kind = .ordinary)
    (noRequest : call.request? = none)
    (inPlace : ∀ succeeded, held.after? ⟨call, succeeded⟩ = some held)
    (sql : Option String) :
    Takes held held
      (driver sql fun connection =>
        if connection.isLender endpoint then
          (.error (Connection.missingCall name), connection)
        else connection.attempt call (fault connection) ())
      fun _ => True := by
  intro connection ordinary owns
  rw [driver, on_ofFunction]
  split_ifs
  · exact Connection.yields_of_result owns fun _ _ => trivial
  · refine Connection.yields_attempt ?_ (isOrdinary connection ordinary) sql trivial
    exact fun succeeded =>
      Connection.carries_record owns noRequest (inPlace succeeded) (List.Subset.refl _)

theorem takes_commitWork (held : Holdings) (endpoint : Endpoint) (transaction : Transaction) :
    Takes held held (commitWork endpoint transaction) fun _ => True := by
  cases transaction with
  | joined => exact takes_pure held trivial
  | explicit => exact takes_control held "COMMIT"
  | implicit =>
      exact takes_ending (fun _ ordinary => ordinary.commits) rfl (fun _ => rfl) (some "COMMIT")

theorem takes_undoWork (held : Holdings) (endpoint : Endpoint) (transaction : Transaction) :
    Takes held held (undoWork endpoint transaction) fun _ => True := by
  cases transaction with
  | joined => exact takes_pure held trivial
  | explicit => exact takes_control held "ROLLBACK"
  | implicit =>
      exact takes_ending (fun _ ordinary => ordinary.undoes) rfl (fun _ => rfl) (some "ROLLBACK")

/-- Undoing fails by a failure of the connection only, also where the handle has no transactions. -/
theorem reports_undoWork (endpoint : Endpoint) (transaction : Transaction) :
    Reports (undoWork endpoint transaction) := by
  cases transaction with
  | joined => exact reports_pure ()
  | explicit => exact reports_control "ROLLBACK"
  | implicit =>
      apply reports_driver
      intro connection isOrdinary fault raised
      have fails : (Connection.rollback endpoint connection).1 = .error fault := raised
      rw [Connection.rollback] at fails
      split_ifs at fails
      · cases fails
        rfl
      · exact isOrdinary.undoes fault (Connection.fault_of_attempt fails)

/--
A unit of work holds nothing when it ends.  Where its body has failed by a failed call, undoing it
either keeps that failure or replaces it by another failure of the connection.
-/
theorem takes_unitOfWork
    {body : Database α}
    (takes : Takes held held body gives)
    (endpoint : Endpoint)
    (beginSql : String) :
    Takes held held (unitOfWork endpoint beginSql body) gives := by
  refine (takes_beginWork held endpoint beginSql).bind fun transaction _ => ?_
  intro connection isOrdinary owns
  have worked := takes connection isOrdinary owns
  have ordinaryAfter := worked.isOrdinary isOrdinary
  show connection.Yields held
    ((endWork endpoint transaction (body.on connection).1).on (body.on connection).2) held gives
  generalize body.on connection = outcome at worked ordinaryAfter
  rcases outcome with ⟨result, after⟩
  cases result with
  | ok value =>
      have isGiven := worked.2 value rfl
      rcases worked.exists_carries with ⟨events, carries, allSucceed⟩
      apply carries.trans_yields allSucceed
      exact
        ((takes_commitWork held endpoint transaction).bind fun _ _ => takes_pure held isGiven)
          after ordinaryAfter carries.owns
  | error failure =>
      rcases worked with ⟨⟨events, carries, surfaces⟩, -⟩
      have undone := takes_undoWork held endpoint transaction after ordinaryAfter carries.owns
      have reports := reports_undoWork endpoint transaction after ordinaryAfter
      dsimp only
      rw [endWork, on_bind]
      generalize (undoWork endpoint transaction).on after = undoing at undone reports
      rcases undoing with ⟨undoResult, last⟩
      cases undoResult with
      | error other =>
          rcases undone with ⟨⟨others, carriesOn, -⟩, -⟩
          exact (carries.trans carriesOn).yields_of_isConnection (reports other rfl)
      | ok value =>
          rcases undone.exists_carries with ⟨others, carriesOn, othersSucceed⟩
          refine ⟨⟨_, carries.trans carriesOn, surfaces.append othersSucceed⟩, ?_⟩
          intro value impossible
          cases impossible

/-! ## Statements -/

/-- The cursor after a fetch call has the same number, and raises nothing that it did not raise. -/
theorem advance_isOrdinary
    {cursor : Cursor}
    (isOrdinary : cursor.reply.IsOrdinary)
    (count : Nat) :
    (cursor.advance count).number = cursor.number ∧
      (cursor.advance count).reply.IsOrdinary :=
  ⟨rfl, isOrdinary.executes, isOrdinary.fetches⟩

variable {cursor : Cursor}

theorem takes_fetchOne
    (isOpen : cursor.number ∈ held.cursors)
    (isOrdinary : cursor.reply.IsOrdinary)
    (sql : Option String) :
    Takes held held (driver sql cursor.fetchOne) fun _ => True := by
  have inPlace (succeeded : Bool) :
      held.after? ⟨.fetchOne cursor.number, succeeded⟩ = some held := if_pos isOpen
  exact takes_fetch (fun _ => rfl) rfl inPlace isOrdinary sql trivial

theorem takes_fetchMany
    (isOpen : cursor.number ∈ held.cursors)
    (isOrdinary : cursor.reply.IsOrdinary)
    (sql : Option String)
    (size : Int) :
    Takes held held (driver sql (cursor.fetchMany size)) fun fetched =>
      fetched.2.number = cursor.number ∧ fetched.2.reply.IsOrdinary := by
  have inPlace (succeeded : Bool) :
      held.after? ⟨.fetchMany cursor.number size, succeeded⟩ = some held := if_pos isOpen
  exact takes_fetch (fun _ => rfl) rfl inPlace isOrdinary sql (advance_isOrdinary isOrdinary _)

theorem takes_fetchAllRows
    (isOpen : cursor.number ∈ held.cursors)
    (isOrdinary : cursor.reply.IsOrdinary)
    (sql : Option String) :
    Takes held held (driver sql cursor.fetchAll) fun _ => True := by
  have inPlace (succeeded : Bool) :
      held.after? ⟨.fetchAll cursor.number, succeeded⟩ = some held := if_pos isOpen
  exact takes_fetch (fun _ => rfl) rfl inPlace isOrdinary sql trivial

theorem takes_fetchRow
    (isOpen : cursor.number ∈ held.cursors)
    (isOrdinary : cursor.reply.IsOrdinary)
    (sql : String) :
    Takes held held (fetchRow cursor sql) fun _ => True := by
  apply (takes_fetchOne isOpen isOrdinary (some sql)).bind
  rintro ⟨row, rest⟩ -
  cases row with
  | none => exact takes_throw held _
  | some row => exact takes_pure held trivial

/-- A statement that is executed for its rows, or for nothing, leaves nothing held. -/
theorem takes_executing
    {use : Cursor → Database α}
    (takes :
      ∀ (held : Holdings) (cursor : Cursor),
        cursor.number ∈ held.cursors →
          cursor.reply.IsOrdinary → Takes held held (use cursor) gives)
    (sql : String)
    (arguments : List Value)
    (dialect : Option String) :
    Takes .empty .empty (executing sql arguments dialect use) gives := by
  apply takes_acquire
  intro held endpoint
  apply takes_withCursor
  intro cursor
  apply (takes_execute List.mem_cons_self sql (some arguments)).bind
  rintro executed ⟨sameNumber, isOrdinary⟩
  apply takes _ executed _ isOrdinary
  rw [sameNumber]
  exact List.mem_cons_self

theorem takes_executeStatement
    (sql : String)
    (arguments : List Value)
    (dialect : Option String) :
    Takes .empty .empty (execute sql arguments dialect) fun _ => True :=
  takes_executing (fun held _ _ _ => takes_pure held trivial) sql arguments dialect

/-- Rows are decoded after everything is released, so that decoding may fail. -/
theorem takes_fetchAll
    (decoder : Decoder α)
    (sql : String)
    (arguments : List Value)
    (dialect : Option String) :
    Takes .empty .empty (fetchAll decoder sql arguments dialect) fun _ => True := by
  have fetches :
      Takes .empty .empty (fetchRaw Cursor.fetchAll sql arguments dialect) fun _ => True := by
    apply takes_executing
    intro held cursor isOpen isOrdinary
    exact (takes_fetchAllRows isOpen isOrdinary (some sql)).map
  exact fetches.bind fun raw _ => takes_require .empty fun _ _ => trivial

theorem takes_fetchOptional
    (decoder : Decoder α)
    (sql : String)
    (arguments : List Value)
    (dialect : Option String) :
    Takes .empty .empty (fetchOptional decoder sql arguments dialect) fun _ => True := by
  have fetches :
      Takes .empty .empty (fetchRaw (Cursor.fetchMany 2) sql arguments dialect) fun _ => True := by
    apply takes_executing
    intro held cursor isOpen isOrdinary
    exact (takes_fetchMany isOpen isOrdinary (some sql) 2).map
  exact fetches.bind fun raw _ => takes_require .empty fun _ _ => trivial

theorem takes_fetchOnlyRow
    (decoder : Decoder α)
    (sql : String)
    (arguments : List Value)
    (dialect : Option String) :
    Takes .empty .empty (Database.fetchOne decoder sql arguments dialect) fun _ => True := by
  apply (takes_fetchOptional decoder sql arguments dialect).bind
  intro found _
  cases found with
  | none => exact takes_throw .empty _
  | some value => exact takes_pure .empty trivial

end Database

end SqlMapping
