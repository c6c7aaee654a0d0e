import SqlMapping.Failure

/-!
# Classes of faults

A scripted fault is raised by the name of its class and a text.  The name tells how the fault is
treated.  A class that needs more than a text cannot be raised like that: what is raised instead
says which arguments are missing.
-/

namespace SqlMapping

namespace Fault

/-- The failures of operations, which carry a statement. -/
def operationErrors : List String :=
  ["OperationError", "ConnectionFailure", "RowNotFoundError", "MultipleRowsError",
    "DecodeFailureError", "UnmatchedBranchError"]

/-- The refusals that can be raised with a text alone, with their codes. -/
def refusalCodes : List (String × String) :=
  [("InvalidSkeletonError", "INVALID_SKELETON"), ("CompilationError", "COMPILATION_ERROR"),
    ("BranchResultShapeMismatchError", "BRANCH_RESULT_SHAPE_MISMATCH")]

/-- The root of the failures of this library. -/
def rootError : String := "BrickORMError"

/-- The requests to stop. -/
def interruptions : List String :=
  ["KeyboardInterrupt", "SystemExit", "GeneratorExit", "BaseException"]

/-- How faults of a class are treated. -/
def kindOf (name : String) : FaultKind :=
  if name = rootError || operationErrors.contains name || (refusalCodes.lookup name).isSome then
    .failure
  else if interruptions.contains name then .interruption
  else .ordinary

/-- The refusals that need a code besides a text. -/
def codedErrors : List String := ["BuildError", "SchemaError", "QueryCompileError"]

/-- What the other refusals need besides a text. -/
def missingArguments : List (String × List String) :=
  [("DuplicateAttributeError", ["location"]), ("MissingAttributeError", ["location"]),
    ("DefaultWithoutInsertableError", ["location"]), ("NameCollisionError", ["location"]),
    ("UnresolvedPatchTargetError", ["location"]),
    ("UnknownAttributeError", ["allowed", "location"]),
    ("InvalidAttributeError", ["value", "expected", "location"]),
    ("UnknownIdentifierFieldError", ["fields", "location"]),
    ("UnknownPatchFieldError", ["target", "location"]),
    ("BranchCapacityExceededError", ["limit"])]

/-- The wording for other classes that need more than a text. -/
def countedArguments : List (String × String) :=
  [("UnicodeDecodeError", "function takes exactly 5 arguments (1 given)"),
    ("UnicodeEncodeError", "function takes exactly 5 arguments (1 given)"),
    ("UnicodeTranslateError", "function takes exactly 4 arguments (1 given)"),
    ("ExceptionGroup", "BaseExceptionGroup.__new__() takes exactly 2 arguments (1 given)"),
    ("BaseExceptionGroup", "BaseExceptionGroup.__new__() takes exactly 2 arguments (1 given)")]

/-- What is said of the arguments that a class lacks which is raised with a text alone. -/
def lackOf? (name : String) : Option String :=
  let lacks (owner : String) (arguments : List String) : String :=
    (KindMismatch.missingArguments (owner ++ ".__init__") arguments).message
  if codedErrors.contains name then some (lacks "BuildError" ["code"])
  else ((missingArguments.lookup name).map (lacks name)).or (countedArguments.lookup name)

/-- The classes that go by a second name. -/
def secondNames : List (String × String) :=
  [("IOError", "OSError"), ("EnvironmentError", "OSError")]

/-- The fault that is raised by the name of a class and a text. -/
def ofName (name text : String) : Fault :=
  match lackOf? name with
  | some lack => { kind := .ordinary, name := "TypeError", text := lack }
  | none =>
    { kind := kindOf name
      name := (secondNames.lookup name).getD name
      text := text
      shown := if name = "KeyError" then Text.quoteText text else text }

end Fault

end SqlMapping
