import SqlMapping.Value

/-!
# Faults

A fault is what a database driver raises.  Most faults are ordinary: they are reported as
failures of the connection.  An interruption is not the driver's own, and neither is a fault
that is already one of this library's failures; both pass through as they are.
-/

namespace SqlMapping

/-- How a fault is treated where it leaves the driver. -/
inductive FaultKind where
  /-- A failure of the driver. -/
  | ordinary
  /-- A request to stop, whatever is being done. -/
  | interruption
  /-- One of this library's failures. -/
  | failure
deriving DecidableEq

/-- What a driver raises. -/
structure Fault where
  kind : FaultKind
  /-- The name of the class of the fault. -/
  name : String
  /-- What the fault was raised with. -/
  text : String
  /-- The text that the fault shows of itself. -/
  shown : String := text
deriving DecidableEq

end SqlMapping
