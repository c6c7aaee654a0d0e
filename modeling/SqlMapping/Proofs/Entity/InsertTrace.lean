import SqlMapping.Proofs.Database.Bracketing
import SqlMapping.Proofs.Entity.Insertion

/-!
# Traces of inserts

An insert in several statements has one cursor.  The statements of its plan are taken one after the
other, each together with the row that is fetched for it, until one of them fails; then the cursor
is closed, and only after that the transaction is ended.

The main statement says that units of work are bracketed whatever their body is, and that an insert
in several statements is such a unit of work, on every handle and with every failure.
-/

namespace SqlMapping

/-- A statement as it is taken on a cursor: its text, and whether a row is fetched for it. -/
structure CursorStep where
  sql : String
  fetches : Bool

/-- The statements of an insert in order: the queries after the insert give one row each. -/
def InsertPlan.steps (plan : InsertPlan) : List CursorStep :=
  ⟨plan.statement.sql, false⟩
    :: (plan.lastInsertId.toList ++ plan.fetchDefaults.toList).map fun query => ⟨query.sql, true⟩

/-- The events of statements that are taken one after the other until one of them fails. -/
inductive StepsTaken (cursor : Nat) : List CursorStep → List Event → Bool → Prop where
  | finished : StepsTaken cursor [] [] true
  /-- The arguments of the next statement are missing. -/
  | unbound
      {step : CursorStep}
      {rest : List CursorStep} :
      StepsTaken cursor (step :: rest) [] false
  | refused
      {step : CursorStep}
      {rest : List CursorStep}
      {arguments : Option (List Value)} :
      StepsTaken cursor (step :: rest) [⟨.execute cursor step.sql arguments, false⟩] false
  /-- There is no row to be read, or fetching it fails. -/
  | unread
      {step : CursorStep}
      {rest : List CursorStep}
      {arguments : Option (List Value)}
      (fetches : step.fetches = true)
      (fetched : Bool) :
      StepsTaken cursor (step :: rest)
        [⟨.execute cursor step.sql arguments, true⟩, ⟨.fetchOne cursor, fetched⟩] false
  | executed
      {step : CursorStep}
      {rest : List CursorStep}
      {arguments : Option (List Value)}
      {events : List Event}
      {succeeded : Bool}
      (fetchesNone : step.fetches = false)
      (others : StepsTaken cursor rest events succeeded) :
      StepsTaken cursor (step :: rest)
        (⟨.execute cursor step.sql arguments, true⟩ :: events) succeeded
  | read
      {step : CursorStep}
      {rest : List CursorStep}
      {arguments : Option (List Value)}
      {events : List Event}
      {succeeded : Bool}
      (fetches : step.fetches = true)
      (others : StepsTaken cursor rest events succeeded) :
      StepsTaken cursor (step :: rest)
        (⟨.execute cursor step.sql arguments, true⟩ :: ⟨.fetchOne cursor, true⟩ :: events)
        succeeded

/-- The events of statements on a cursor of their own, and whether all of them succeeded. -/
inductive OnCursor (steps : List CursorStep) : List Event → Bool → Prop where
  | unopened
      (number : Nat)
      (style : CursorStyle) :
      OnCursor steps [⟨.openCursor number style, false⟩] false
  | closed
      {number : Nat}
      {style : CursorStyle}
      {events : List Event}
      {succeeded : Bool}
      (taken : StepsTaken number steps events succeeded) :
      OnCursor steps
        (⟨.openCursor number style, true⟩ :: (events ++ [⟨.closeCursor number, true⟩])) succeeded

namespace StepsTaken

variable {cursor : Nat} {steps late : List CursorStep} {events others : List Event}
  {succeeded : Bool}

/-- Statements that have all succeeded are followed by others. -/
theorem append
    (taken : StepsTaken cursor steps events true)
    (after : StepsTaken cursor late others succeeded) :
    StepsTaken cursor (steps ++ late) (events ++ others) succeeded := by
  generalize isTrue : true = all at taken
  induction taken with
  | finished => exact after
  | unbound => cases isTrue
  | refused => cases isTrue
  | unread fetches fetched => cases isTrue
  | executed fetchesNone _ inductionHypothesis =>
      exact .executed fetchesNone (inductionHypothesis isTrue)
  | read fetches _ inductionHypothesis => exact .read fetches (inductionHypothesis isTrue)

/-- After a failure no further statement is taken. -/
theorem append_of_failed
    (taken : StepsTaken cursor steps events false)
    (late : List CursorStep) :
    StepsTaken cursor (steps ++ late) events false := by
  generalize isFalse : false = all at taken
  induction taken with
  | finished => cases isFalse
  | unbound => exact .unbound
  | refused => exact .refused
  | unread fetches fetched => exact .unread fetches fetched
  | executed fetchesNone _ inductionHypothesis =>
      exact .executed fetchesNone (inductionHypothesis isFalse)
  | read fetches _ inductionHypothesis => exact .read fetches (inductionHypothesis isFalse)

/-- Where the first of some events has succeeded, a failed one is among the others. -/
theorem exists_of_cons_eq_append
    {first failed : Event}
    {before after : List Event}
    (split : first :: events = before ++ failed :: after)
    (succeeds : first.succeeded = true)
    (fails : failed.succeeded = false) :
    ∃ rest, events = rest ++ failed :: after := by
  cases before with
  | nil =>
      rw [(List.cons.inj split).1, fails] at succeeds
      cases succeeds
  | cons event rest => exact ⟨rest, (List.cons.inj split).2⟩

theorem eq_nil_of_singleton_eq_append
    {first failed : Event}
    {before after : List Event}
    (split : [first] = before ++ failed :: after) :
    after = [] := by
  cases before with
  | nil => exact (List.cons.inj split).2.symm
  | cons event rest => exact absurd (List.cons.inj split).2.symm (by simp)

/-- Nothing is called on the cursor after a call that has failed. -/
theorem eq_nil_of_failed
    (taken : StepsTaken cursor steps events succeeded)
    {before after : List Event}
    {failed : Event}
    (split : events = before ++ failed :: after)
    (fails : failed.succeeded = false) :
    after = [] := by
  -- Each call before the failed one has succeeded, so that its step was not the last one.
  induction taken generalizing before with
  | finished => exact absurd split.symm (by simp)
  | unbound => exact absurd split.symm (by simp)
  | refused => exact eq_nil_of_singleton_eq_append split
  | unread _ fetched =>
      rcases exists_of_cons_eq_append split rfl fails with ⟨rest, split⟩
      exact eq_nil_of_singleton_eq_append split
  | executed _ _ inductionHypothesis =>
      rcases exists_of_cons_eq_append split rfl fails with ⟨rest, split⟩
      exact inductionHypothesis split
  | read _ _ inductionHypothesis =>
      rcases exists_of_cons_eq_append split rfl fails with ⟨rest, split⟩
      rcases exists_of_cons_eq_append split rfl fails with ⟨rest, split⟩
      exact inductionHypothesis split

/-- The statements that are executed are the first ones of those that are to be taken. -/
theorem requests_prefix
    (taken : StepsTaken cursor steps events succeeded) :
    (requestsOf events).map Prod.fst <+: steps.map CursorStep.sql := by
  induction taken with
  | finished => exact List.prefix_refl []
  | unbound => exact List.nil_prefix
  | refused => exact List.prefix_cons_inj _ |>.2 List.nil_prefix
  | unread => exact List.prefix_cons_inj _ |>.2 List.nil_prefix
  | executed _ _ inductionHypothesis => exact List.prefix_cons_inj _ |>.2 inductionHypothesis
  | read _ _ inductionHypothesis => exact List.prefix_cons_inj _ |>.2 inductionHypothesis

end StepsTaken

namespace Database

variable {α β : Type} {cursor : Nat}

/-! ## Taking statements -/

/-- On every connection, an action takes some statements, and its values are of some kind. -/
def StepsThrough
    (cursor : Nat)
    (steps : List CursorStep)
    (action : Database α)
    (gives : α → Prop) :
    Prop :=
  ∀ connection : Connection,
    (∃ events, connection.LeadsTo events (action.on connection).2 ∧
        StepsTaken cursor steps events (action.on connection).1.isOk) ∧
      ∀ value, (action.on connection).1 = .ok value → gives value

/-- On every connection, an action fetches one row, and it fails if it cannot. -/
def FetchesOnce (cursor : Nat) (action : Database α) : Prop :=
  ∀ connection : Connection,
    ∃ fetched : Bool,
      connection.LeadsTo [⟨.fetchOne cursor, fetched⟩] (action.on connection).2 ∧
        ((action.on connection).1.isOk = true → fetched = true)

theorem stepsThrough_pure
    {gives : α → Prop}
    {value : α}
    (isGiven : gives value) :
    StepsThrough cursor [] (pure value : Database α) gives := by
  intro connection
  refine ⟨⟨[], Connection.LeadsTo.refl connection, .finished⟩, ?_⟩
  rintro _ ⟨⟩
  exact isGiven

/-- The statements of a second action follow those of the first if these have all succeeded. -/
theorem StepsThrough.bind
    {steps late : List CursorStep}
    {action : Database α}
    {next : α → Database β}
    {given : α → Prop}
    {gives : β → Prop}
    (first : StepsThrough cursor steps action given)
    (second : ∀ value, given value → StepsThrough cursor late (next value) gives) :
    StepsThrough cursor (steps ++ late) (action >>= next) gives := by
  intro connection
  rcases first connection with ⟨⟨events, leads, taken⟩, isGiven⟩
  rw [on_bind]
  generalize action.on connection = run at leads taken isGiven
  rcases run with ⟨outcome, middle⟩
  cases outcome with
  | error failure =>
      refine ⟨⟨events, leads, taken.append_of_failed late⟩, ?_⟩
      intro value impossible
      cases impossible
  | ok value =>
      rcases second value (isGiven value rfl) middle with ⟨⟨others, leadsOn, takenOn⟩, isGivenOn⟩
      exact ⟨⟨events ++ others, leads.trans leadsOn, taken.append takenOn⟩, isGivenOn⟩

/-- Nothing is executed for a statement whose arguments are missing. -/
theorem StepsThrough.require
    {step : CursorStep}
    {rest : List CursorStep}
    {next : α → Database β}
    {gives : β → Prop}
    (stepsThrough : ∀ value, StepsThrough cursor (step :: rest) (next value) gives)
    (result : Except Failure α) :
    StepsThrough cursor (step :: rest) (Database.require result >>= next) gives := by
  intro connection
  rw [on_bind, Database.require, on_ofFunction]
  cases result with
  | error failure =>
      refine ⟨⟨[], Connection.LeadsTo.refl connection, .unbound⟩, ?_⟩
      intro value impossible
      cases impossible
  | ok value => exact stepsThrough value connection

/-- A statement without a row is a step by itself, and the cursor stays the same. -/
theorem stepsThrough_run (opened : Cursor) (sql : String) (arguments : List Value) :
    StepsThrough opened.number [⟨sql, false⟩] (run opened sql arguments)
      fun next => next.number = opened.number := by
  intro connection
  rcases connection.execute_outcome opened sql (some arguments) with
    ⟨outcome, after, executed, leads, isNumber⟩
  rw [run, driver, on_ofFunction, executed]
  cases outcome with
  | error fault =>
      refine ⟨⟨_, leads, .refused⟩, ?_⟩
      intro value impossible
      cases impossible
  | ok next =>
      refine ⟨⟨_, leads, .executed rfl .finished⟩, ?_⟩
      rintro _ ⟨⟩
      exact isNumber next rfl

/-- A statement together with the row that is fetched for it is a step. -/
theorem stepsThrough_query
    (opened : Cursor)
    (sql : String)
    (arguments : List Value)
    {next : Cursor → Database α}
    (fetches : ∀ cursor : Cursor, FetchesOnce cursor.number (next cursor)) :
    StepsThrough opened.number [⟨sql, true⟩] (run opened sql arguments >>= next)
      fun _ => True := by
  intro connection
  refine ⟨?_, fun _ _ => trivial⟩
  rcases connection.execute_outcome opened sql (some arguments) with
    ⟨outcome, after, executed, leads, isNumber⟩
  rw [on_bind, run, driver, on_ofFunction, executed]
  cases outcome with
  | error fault => exact ⟨_, leads, .refused⟩
  | ok running =>
      rcases fetches running after with ⟨fetched, leadsOn, isFetched⟩
      rw [isNumber running rfl] at leadsOn
      refine ⟨_, leads.trans leadsOn, ?_⟩
      show StepsTaken _ _ _ ((next running).on after).1.isOk
      cases succeeded : ((next running).on after).1.isOk with
      | false => exact .unread rfl fetched
      | true =>
          rw [isFetched succeeded]
          exact .read rfl .finished

theorem fetchesOnce_fetchOne (cursor : Cursor) (sql : Option String) :
    FetchesOnce cursor.number (driver sql cursor.fetchOne) := by
  intro connection
  rw [driver, on_ofFunction, Cursor.fetchOne]
  cases cursor.fetchFault? with
  | some fault => exact ⟨false, connection.leadsTo_record rfl false, fun impossible => impossible⟩
  | none => exact ⟨true, connection.leadsTo_record rfl true, fun _ => rfl⟩

/-- What is made of a row without a call leaves the fetch as it is. -/
theorem FetchesOnce.bind
    {action : Database α}
    {next : α → Database β}
    (fetches : FetchesOnce cursor action)
    (calm : ∀ (value : α) (connection : Connection), ((next value).on connection).2 = connection) :
    FetchesOnce cursor (action >>= next) := by
  intro connection
  rcases fetches connection with ⟨fetched, leads, isFetched⟩
  rw [on_bind]
  generalize action.on connection = run at leads isFetched
  rcases run with ⟨outcome, after⟩
  cases outcome with
  | error failure => exact ⟨fetched, leads, fun impossible => by cases impossible⟩
  | ok value =>
      refine ⟨fetched, ?_, fun _ => isFetched rfl⟩
      dsimp only
      rw [calm value after]
      exact leads

/-- A cursor is closed after whatever statements an action takes on it. -/
theorem StepsThrough.withCursor
    {steps : List CursorStep}
    {action : Cursor → Database α}
    (stepsThrough :
      ∀ opened : Cursor, StepsThrough opened.number steps (action opened) fun _ => True)
    (dialect : Option String)
    (connection : Connection) :
    ∃ events,
      connection.LeadsTo events ((withCursor dialect action).on connection).2 ∧
        OnCursor steps events ((withCursor dialect action).on connection).1.isOk := by
  rcases connection.openCursor_outcome (dialect = some preparedDialect) with
    ⟨number, style, outcome, opened, isOpened, opens, isNumber⟩
  rw [Database.withCursor, on_bind, openCursor, driver, on_ofFunction, isOpened]
  cases outcome with
  | error fault => exact ⟨_, opens, .unopened number style⟩
  | ok cursor =>
      rw [← isNumber cursor rfl] at opens
      rcases (stepsThrough cursor opened).1 with ⟨events, leads, taken⟩
      have closes :
          ((action cursor).on opened).2.LeadsTo [⟨.closeCursor cursor.number, true⟩]
            (((action cursor).on opened).2.closeCursor cursor.number) :=
        Connection.leadsTo_record _ rfl true
      exact ⟨_, opens.trans (leads.trans closes), .closed taken⟩

end Database

/-- The events of the unit of work of an insert at an endpoint: none if its mode is unknown. -/
def InsertPlan.WorkTrace
    (plan : InsertPlan)
    (beginSql : String)
    (endpoint : Endpoint)
    (connection : Connection)
    (events : List Event) :
    Prop :=
  match (connection.attributesAt endpoint).transaction with
  | .error _ => events = []
  | .ok transaction =>
    transaction.Trace beginSql (connection.isLender endpoint) (OnCursor plan.steps) events

/-- The events of an action on a handle: a pool lends a connection for the action. -/
def Connection.lending (connection : Connection) (events : List Event) : List Event :=
  if connection.isPool then ⟨.borrow, true⟩ :: (events ++ [⟨.giveBack, true⟩]) else events

namespace InsertRow

open Database (StepsThrough FetchesOnce)

variable {row : InsertRow} {compiled : CompiledTable} {plan : InsertPlan}

/-! ## The statements of an insert -/

theorem fetchesOnce_fetchRow (cursor : Cursor) (sql : String) :
    FetchesOnce cursor.number (Database.fetchRow cursor sql) := by
  refine (Database.fetchesOnce_fetchOne cursor (some sql)).bind ?_
  rintro ⟨row, rest⟩ connection
  cases row with
  | none => rfl
  | some row => rfl

theorem fetchesOnce_firstColumn (sql : String) (cursor : Cursor) :
    FetchesOnce cursor.number (firstColumn sql cursor) := by
  refine (Database.fetchesOnce_fetchOne cursor (some sql)).bind ?_
  rintro ⟨row, rest⟩ connection
  cases row with
  | none => rfl
  | some row =>
      cases row with
      | nil => rfl
      | cons value others => rfl

theorem stepsThrough_fetchIdentifier
    (name : String)
    (opened : Cursor)
    (query : Option Statement) :
    StepsThrough opened.number (query.toList.map fun query => ⟨query.sql, true⟩)
      (fetchIdentifier name opened query) fun _ => True := by
  cases query with
  | none => exact Database.stepsThrough_pure trivial
  | some statement =>
      refine Database.stepsThrough_query opened statement.sql [] fun cursor => ?_
      exact (fetchesOnce_firstColumn statement.sql cursor).bind fun _ _ => rfl

theorem stepsThrough_fetchDefaults
    (identifier : Value)
    (opened : Cursor)
    (query : Option Statement) :
    StepsThrough opened.number (query.toList.map fun query => ⟨query.sql, true⟩)
      (fetchDefaults identifier opened query) fun _ => True := by
  cases query with
  | none => exact Database.stepsThrough_pure trivial
  | some statement =>
      refine StepsThrough.require (fun arguments => ?_) _
      refine Database.stepsThrough_query opened statement.sql arguments fun cursor => ?_
      exact (fetchesOnce_fetchRow cursor statement.sql).bind fun _ _ => rfl

/-- On every connection, an insert that queries what was generated works as its plan says. -/
theorem exists_works
    (row : InsertRow)
    (plan : InsertPlan)
    (identifierName : String)
    (dialect : Option String)
    (connection : Connection) :
    ∃ events,
      connection.LeadsTo events
          ((row.insertThenFetch plan identifierName dialect).on connection).2 ∧
        OnCursor plan.steps events
          ((row.insertThenFetch plan identifierName dialect).on connection).1.isOk := by
  apply StepsThrough.withCursor
  intro opened
  -- The cursor keeps its number through all statements, each of which gives a new state of it.
  refine StepsThrough.require (fun arguments => ?_) _
  rw [List.map_append]
  refine (Database.stepsThrough_run opened plan.statement.sql arguments).bind ?_
  intro cursor isNumber
  rw [← isNumber]
  refine (stepsThrough_fetchIdentifier identifierName cursor plan.lastInsertId).bind ?_
  intro generated _
  rw [← List.append_nil (plan.fetchDefaults.toList.map _)]
  refine (stepsThrough_fetchDefaults _ cursor plan.fetchDefaults).bind ?_
  intro others _
  exact Database.stepsThrough_pure trivial

/-! ## The whole insert -/

/-- Inserting asks the connection for what generating asks it for. -/
theorem on_insert_snd
    (has : row.table.statements = .ok compiled)
    (isInsert : compiled.plan.insert = some plan)
    (connection : Connection) :
    (row.insert.on connection).2 = ((row.generate compiled plan).on connection).2 := by
  rw [on_insert has isInsert]
  rcases (row.generate compiled plan).on connection with ⟨outcome, after⟩
  cases outcome with
  | error failure => rfl
  | ok generated => rfl

/-- The events of a unit of work that inserts at an endpoint. -/
theorem exists_workTrace
    (row : InsertRow)
    (compiled : CompiledTable)
    (plan : InsertPlan)
    (endpoint : Endpoint)
    (connection : Connection) :
    ∃ events,
      connection.LeadsTo events
          ((Database.unitOfWork endpoint compiled.backend.beginSql
            (row.insertThenFetch plan compiled.plan.schema.identifier.name
              compiled.dialect)).on connection).2 ∧
        plan.WorkTrace compiled.backend.beginSql endpoint connection events := by
  rcases (Database.brackets_unitOfWork endpoint compiled.backend.beginSql
      (row.insertThenFetch plan compiled.plan.schema.identifier.name compiled.dialect)
      connection).exists_trace (row.exists_works plan _ _) with
    ⟨failure, mode, same⟩ | ⟨transaction, events, mode, leads, trace⟩
  · refine ⟨[], ?_, ?_⟩
    · rw [same]
      exact Connection.LeadsTo.refl connection
    · rw [InsertPlan.WorkTrace, mode]
  · refine ⟨events, leads, ?_⟩
    rw [InsertPlan.WorkTrace, mode]
    exact trace

/-- What an insert in several statements asks for is a unit of work on the handle. -/
theorem exists_trace
    (has : row.table.statements = .ok compiled)
    (isInsert : compiled.plan.insert = some plan)
    (several : plan.returning = false)
    (connection : Connection) :
    ∃ events,
      (row.insert.on connection).2.journal = connection.journal ++ connection.lending events ∧
        plan.WorkTrace compiled.backend.beginSql connection.workEndpoint connection events := by
  rw [on_insert_snd has isInsert, generate, Database.on_acquire, several]
  simp only [Connection.lending, Connection.workEndpoint, Bool.false_eq_true, if_false]
  cases connection.isPool with
  | true =>
      rcases row.exists_workTrace compiled plan .borrowed connection.borrow with
        ⟨events, leads, trace⟩
      refine ⟨events, ?_, trace⟩
      have borrows : connection.LeadsTo [⟨.borrow, true⟩] connection.borrow :=
        connection.leadsTo_record rfl true
      exact ((borrows.trans leads).trans (Connection.leadsTo_record _ rfl true)).journal
  | false =>
      rcases row.exists_workTrace compiled plan .handle connection with ⟨events, leads, trace⟩
      exact ⟨events, leads.journal, trace⟩

/--
Every run of a unit of work is bracketed, whatever its body is.  An insert in several statements
is such a run: nothing is called for a statement after a call that failed, and the cursor of the
statements is closed before the transaction is ended.
-/
theorem brackets_and_traces :
    (∀ (α : Type) (endpoint : Endpoint) (beginSql : String) (body : Database α)
        (connection : Connection),
        Database.Brackets endpoint beginSql body connection
          ((Database.unitOfWork endpoint beginSql body).on connection)) ∧
      (∀ (row : InsertRow) (compiled : CompiledTable) (plan : InsertPlan)
          (connection : Connection),
          row.table.statements = .ok compiled →
            compiled.plan.insert = some plan →
              plan.returning = false →
                ∃ events,
                  (row.insert.on connection).2.journal =
                      connection.journal ++ connection.lending events ∧
                    plan.WorkTrace compiled.backend.beginSql connection.workEndpoint connection
                      events) ∧
        ∀ (plan : InsertPlan) (cursor : Nat) (events : List Event) (succeeded : Bool),
          StepsTaken cursor plan.steps events succeeded →
            (requestsOf events).map Prod.fst <+: plan.statements.map Statement.sql ∧
              ∀ (before after : List Event) (failed : Event),
                events = before ++ failed :: after → failed.succeeded = false → after = [] := by
  refine ⟨fun α endpoint beginSql body connection => ?_, ?_, ?_⟩
  · exact Database.brackets_unitOfWork endpoint beginSql body connection
  · intro row compiled plan connection has isInsert several
    exact exists_trace has isInsert several connection
  · intro plan cursor events succeeded taken
    constructor
    · have isStatements : plan.steps.map CursorStep.sql = plan.statements.map Statement.sql := by
        rw [InsertPlan.steps, List.map_cons, List.map_map]
        rfl
      rw [← isStatements]
      exact taken.requests_prefix
    · intro before after failed split fails
      exact taken.eq_nil_of_failed split fails

/-- A note whose number is lost is inserted in a transaction, and its statements are taken. -/
theorem exists_trace_of_lost_number :
    ∃ (compiled : CompiledTable) (plan : InsertPlan) (events : List Event),
      (firstNote.table.statements = .ok compiled ∧
          compiled.plan.insert = some plan ∧
          plan.returning = false ∧
          StepsTaken 0 plan.steps [⟨.execute 0 plan.statement.sql none, false⟩] false) ∧
        (firstNote.insert.on (connectionWith lostNumber)).2.journal =
            (connectionWith lostNumber).journal ++ (connectionWith lostNumber).lending events ∧
          plan.WorkTrace compiled.backend.beginSql (connectionWith lostNumber).workEndpoint
            (connectionWith lostNumber) events ∧
            [plan.statement.sql] <+: plan.statements.map Statement.sql := by
  have requested (plan : InsertPlan) :
      [plan.statement.sql] <+: plan.statements.map Statement.sql :=
    (brackets_and_traces.2.2 plan 0 [⟨.execute 0 plan.statement.sql none, false⟩] false
      .refused).1
  rcases brackets_and_traces.2.1 firstNote _ _ (connectionWith lostNumber) rfl rfl rfl with
    ⟨events, journal, trace⟩
  exact ⟨_, _, events, ⟨rfl, rfl, rfl, .refused⟩, journal, trace, requested _⟩

end InsertRow

end SqlMapping
