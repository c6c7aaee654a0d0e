import SqlMapping.Database.Connection
import SqlMapping.Failure

/-!
# Database actions

An action talks to a connection and gives a value or fails; what it did to the connection
stays either way.  An action can be followed by a clean-up that always happens.
-/

namespace SqlMapping

/-- An action on a connection. -/
abbrev Database := ExceptT Failure (StateM Connection)

namespace Database

variable {α : Type}

/-- Run an action on a connection. -/
def on (action : Database α) (connection : Connection) : Except Failure α × Connection :=
  action connection

/-- The action that a function of the connection makes. -/
def ofFunction (function : Connection → Except Failure α × Connection) : Database α :=
  function

/-- A call to the driver; a fault becomes a failure of the statement. -/
def driver
    (sql : Option String)
    (call : Connection → Except Fault α × Connection) :
    Database α :=
  ofFunction fun connection =>
    match call connection with
    | (result, after) => (result.mapError (Failure.ofFault sql), after)

/-- An action followed by a clean-up of the connection, whether the action succeeds or not. -/
def followedBy (cleanUp : Connection → Connection) (action : Database α) : Database α :=
  ofFunction fun connection =>
    match action.on connection with
    | (result, after) => (result, cleanUp after)

/-- The outcome of an action as a value; the action that gives it never fails. -/
def outcomeOf (action : Database α) : Database (Except Failure α) :=
  ofFunction fun connection =>
    match action.on connection with
    | (result, after) => (.ok result, after)

/-- A result that is known already. -/
def require (result : Except Failure α) : Database α :=
  ofFunction fun connection => (result, connection)

/-- What a function tells of the connection. -/
def inspect (function : Connection → α) : Database α :=
  ofFunction fun connection => (.ok (function connection), connection)

@[simp]
theorem on_ofFunction (function : Connection → Except Failure α × Connection)
    (connection : Connection) :
    (ofFunction function).on connection = function connection := rfl

@[simp]
theorem on_pure (value : α) (connection : Connection) :
    (pure value : Database α).on connection = (.ok value, connection) := rfl

@[simp]
theorem on_throw (failure : Failure) (connection : Connection) :
    (throw failure : Database α).on connection = (.error failure, connection) := rfl

/-- Actions run one after the other; a failure ends the run. -/
theorem on_bind {β : Type} (action : Database α) (next : α → Database β)
    (connection : Connection) :
    (action >>= next).on connection =
      match action.on connection with
      | (.ok value, after) => (next value).on after
      | (.error failure, after) => (.error failure, after) := by
  show (ExceptT.bindCont next (action connection).1) (action connection).2 = _
  unfold on
  cases outcome : action connection with
  | mk result after => cases result <;> rfl

end Database

end SqlMapping
