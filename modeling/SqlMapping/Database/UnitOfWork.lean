import SqlMapping.Database.Execution

/-!
# Units of work

A unit of work joins the transaction that a connection has open.  Otherwise it opens one, by a
statement where statements take effect one by one, and through the driver where they do not.
It confirms the transaction when its body succeeds and undoes it when the body fails, by
whatever failure; that failure is then the outcome, unless undoing failed.
-/

namespace SqlMapping

/-- How a unit of work relates to the transaction of its connection. -/
inductive Transaction where
  /-- A transaction was open already. -/
  | joined
  /-- The unit of work opened the transaction by a statement. -/
  | explicit
  /-- The driver opens the transaction by itself. -/
  | implicit
deriving DecidableEq

namespace ConnectionAttributes

/-- Read an integer literal; `shown` is the literal as a message shows it. -/
def integerOf (shown : String) (content : String) : Except Failure Int :=
  (Text.readInteger content).mapError (.notAnInteger shown)

/-- The text that bytes stand for where each of them is a character of ASCII. -/
def plainText (content : List UInt8) : String :=
  String.ofList (content.map fun byte =>
    if byte < 128 then Char.ofNat byte.toNat else '\ufffd')

/-- Whether the integer part of a number is not zero. -/
def isPositionBusy (isDecimal : Bool) : NumberPosition → Except Failure Bool
  | .finite number => .ok (number.truncate != 0)
  | .below | .above => .error (.number (.infinite isDecimal))
  | .nowhere => .error (.number (.missing isDecimal))

/-- Whether a reported status stands for an open transaction: any integer but zero does. -/
def isBusy (status : Value) : Except Failure Bool :=
  match status with
  | .text content => (integerOf status.literal content).map (· != 0)
  | .bytes content => (integerOf status.literal (plainText content)).map (· != 0)
  | .written .uuid content => .ok (content.any fun digit => digit != '0' && digit != '-')
  | _ =>
    match status.numberPosition? with
    | some place => isPositionBusy status.decimal?.isSome place
    | none => .error (.mismatch (.noNumber status.typeName))

/-- Whether a transaction is open: by the reported status, or else by the attribute for it. -/
def isInTransaction (attributes : ConnectionAttributes) : Except Failure Bool :=
  match attributes.status with
  | some status =>
    if status.isNull then .ok (attributes.inTransaction.any Value.truthy) else isBusy status
  | none => .ok (attributes.inTransaction.any Value.truthy)

end ConnectionAttributes

namespace Database

variable {α : Type}

/-- Execute a statement that controls transactions, on a cursor of its own. -/
def control (sql : String) : Database Unit :=
  driver (some sql) (Connection.openCursor false) >>= fun cursor =>
    ((driver (some sql) (Connection.execute cursor sql none)).followedBy
      (Connection.closeCursor cursor.number)) >>= fun _ => pure ()

/-- Join the open transaction, or open one. -/
def beginWork (endpoint : Endpoint) (beginSql : String) : Database Transaction := do
  let attributes ← inspect fun connection => connection.attributesAt endpoint
  if ← require attributes.isInTransaction then return .joined
  else if attributes.isAutocommit then
    control beginSql
    return .explicit
  else return .implicit

/-- Confirm the work. -/
def commitWork (endpoint : Endpoint) : Transaction → Database Unit
  | .joined => pure ()
  | .explicit => control "COMMIT"
  | .implicit => driver (some "COMMIT") (Connection.commit endpoint)

/-- Undo the work. -/
def undoWork (endpoint : Endpoint) : Transaction → Database Unit
  | .joined => pure ()
  | .explicit => control "ROLLBACK"
  | .implicit => driver (some "ROLLBACK") (Connection.rollback endpoint)

/-- End a unit of work as the outcome of its body demands. -/
def endWork (endpoint : Endpoint) (transaction : Transaction) (outcome : Except Failure α) :
    Database α :=
  match outcome with
  | .ok value => commitWork endpoint transaction >>= fun _ => pure value
  | .error failure => undoWork endpoint transaction >>= fun _ => throw failure

/-- Run a body as a unit of work. -/
def unitOfWork (endpoint : Endpoint) (beginSql : String) (body : Database α) : Database α :=
  beginWork endpoint beginSql >>= fun transaction =>
    outcomeOf body >>= fun outcome => endWork endpoint transaction outcome

end Database

end SqlMapping
