import SqlMapping.Decimal.Shortest
import SqlMapping.Value.Literal

/-!
# Build errors

The reasons for which a declaration, a patch or a query is refused before anything can run.
An error is its cause; its code, location, details and wording are functions of the cause.
-/

namespace SqlMapping

/-- The shape that an option value has to have. -/
inductive Expectation where
  | nonEmptyText
  | flag
  | functionName
  | lookup
  | lookupFields
  | insertable
  | insertableFields
  | target
  | marker
deriving DecidableEq

/-- The wording of an expected shape. -/
def Expectation.text : Expectation → String
  | .nonEmptyText => "a non-empty string"
  | .flag => "a boolean flag"
  | .functionName => "True or a function name"
  | .lookup => "True, a function name or getter(name, arg_type)"
  | .lookupFields => "a getter option"
  | .insertable => "True, a model name or insertable(name, **config)"
  | .insertableFields => "an insertable option"
  | .target => "an entity class or dotted path"
  | .marker => "orm(...) or a tuple of orm(...)"

/-- Why the rows of a query do not have one shape. -/
inductive ShapeMismatch where
  /-- A branch selects other names than the first branch. -/
  | branch (index : Nat) (expected found : Option (List String))
  /-- The query selects names that the output model lacks. -/
  | unknownFields (names : List String) (model : String)
  /-- The query does not select fields that the output model requires. -/
  | missingFields (names : List String) (model : String)

/-- Why a query skeleton is malformed. -/
inductive SkeletonFault where
  | empty
  | badGuard (guard : Value)
  | nested (guard : String)
  | badFragment (fragment : Value) (guard : String)
  | badToken (token : Value)

/-- Why statements cannot be generated for a reason outside the declaration. -/
inductive CompilationFault where
  | unsupportedBackend (name : String) (registered : List String)
  | noGeneratedIdentifier (entity backend : String)
  | emptyPatch (entity : String)

/-- Why a declaration, a patch or a query is refused. -/
inductive BuildError where
  | duplicateAttribute (key location : String)
  | missingAttribute (key location : String)
  | unknownAttribute (key : String) (allowed : List String) (location : String)
  | invalidAttribute (key : String) (value : Value) (expected : Expectation) (location : String)
  | unknownIdentifierField (field : String) (fields : List String) (location : String)
  | defaultWithoutInsertable (field location : String)
  | nameCollision (name location : String)
  | unknownPatchField (field target location : String)
  | unresolvedPatchTarget (path location : String)
  | branchCapacityExceeded (count : Nat) (limit : Int)
  | shapeMismatch (cause : ShapeMismatch)
  | invalidSkeleton (cause : SkeletonFault)
  | compilation (cause : CompilationFault)

namespace Decimal

/-- Two to the power of an integer, as the text of an integer or of a floating-point number. -/
def powerOfTwoText (exponent : Int) : String :=
  if 0 ≤ exponent then toString (Nat.pow 2 exponent.toNat)
  else (Binary64.ofDyadicUnit exponent).text plainStyle

end Decimal

namespace ShapeMismatch

/-- The wording of a mismatch of shapes. -/
def message : ShapeMismatch → String
  | .branch index expected found =>
    "branch " ++ toString index ++ " selects " ++ Value.literalTexts (found.getD [])
      ++ ", branch 0 selects " ++ Value.literalTexts (expected.getD [])
  | .unknownFields names model => model ++ " has no fields " ++ Value.literalTexts names
  | .missingFields names model =>
    "query does not select required fields " ++ Value.literalTexts names ++ " of " ++ model

/-- The structured context of a mismatch of shapes. -/
def details : ShapeMismatch → List (String × Value)
  | .branch index expected found =>
    let names (shape : Option (List String)) : Value := (shape.map Value.ofTexts).getD .null
    [("branch", .int index), ("expected", names expected), ("found", names found)]
  | .unknownFields names model => [("unknown", .ofTexts names), ("model", .text model)]
  | .missingFields names model => [("missing", .ofTexts names), ("model", .text model)]

end ShapeMismatch

namespace SkeletonFault

/-- The wording of a malformed skeleton. -/
def message : SkeletonFault → String
  | .empty => "query skeleton is empty"
  | .badGuard guard =>
    "guard must be a parameter name or a callable, got " ++ guard.literal
  | .nested _ => "branch points cannot be nested"
  | .badFragment fragment _ =>
    "unsupported fragment " ++ fragment.literal ++ " inside branch point"
  | .badToken token =>
    "unsupported token " ++ token.literal ++ "; expected str, Arg or When"

/-- The structured context of a malformed skeleton. -/
def details : SkeletonFault → List (String × Value)
  | .nested guard => [("guard", .text guard)]
  | .badFragment _ guard => [("guard", .text guard)]
  | .empty | .badGuard _ | .badToken _ => []

end SkeletonFault

namespace CompilationFault

/-- The wording of a failed generation. -/
def message : CompilationFault → String
  | .unsupportedBackend name registered =>
    "Unsupported backend: '" ++ name ++ "'. Registered backends: "
      ++ Value.literalTexts registered ++ "."
  | .noGeneratedIdentifier entity backend =>
    entity ++ ": backend '" ++ backend
      ++ "' can neither return nor query a generated identifier"
  | .emptyPatch entity => entity ++ ": a patch needs at least one field"

/-- The operation that was being generated, where one is named. -/
def operation? : CompilationFault → Option String
  | .unsupportedBackend _ _ => none
  | .noGeneratedIdentifier _ _ => some "insert"
  | .emptyPatch _ => some "patch"

end CompilationFault

namespace BuildError

/-- The machine-readable code of an error. -/
def code : BuildError → String
  | .duplicateAttribute .. => "DUPLICATE_ATTRIBUTE"
  | .missingAttribute .. => "MISSING_ATTRIBUTE"
  | .unknownAttribute .. => "UNKNOWN_ATTRIBUTE"
  | .invalidAttribute .. => "INVALID_ATTRIBUTE"
  | .unknownIdentifierField .. => "UNKNOWN_IDENTIFIER_FIELD"
  | .defaultWithoutInsertable .. => "DEFAULT_WITHOUT_INSERTABLE"
  | .nameCollision .. => "NAME_COLLISION"
  | .unknownPatchField .. => "UNKNOWN_PATCH_FIELD"
  | .unresolvedPatchTarget .. => "UNRESOLVED_PATCH_TARGET"
  | .branchCapacityExceeded .. => "BRANCH_CAPACITY_EXCEEDED"
  | .shapeMismatch _ => "BRANCH_RESULT_SHAPE_MISMATCH"
  | .invalidSkeleton _ => "INVALID_SKELETON"
  | .compilation _ => "COMPILATION_ERROR"

/-- The declaration, or the field of a declaration, that an error is about. -/
def location? : BuildError → Option String
  | .duplicateAttribute _ location
  | .missingAttribute _ location
  | .unknownAttribute _ _ location
  | .invalidAttribute _ _ _ location
  | .unknownIdentifierField _ _ location
  | .defaultWithoutInsertable _ location
  | .nameCollision _ location
  | .unknownPatchField _ _ location
  | .unresolvedPatchTarget _ location => some location
  | .branchCapacityExceeded .. | .shapeMismatch _ | .invalidSkeleton _ | .compilation _ => none

/-- The wording of an error, its location aside. -/
def description : BuildError → String
  | .duplicateAttribute key _ => "duplicate attribute '" ++ key ++ "'"
  | .missingAttribute key _ => "missing attribute '" ++ key ++ "'"
  | .unknownAttribute key _ _ => "unknown attribute '" ++ key ++ "'"
  | .invalidAttribute key value expected _ =>
    "attribute '" ++ key ++ "' expects " ++ expected.text ++ ", got " ++ value.literal
  | .unknownIdentifierField field _ _ =>
    "id '" ++ field ++ "' does not refer to a field of the struct"
  | .defaultWithoutInsertable field _ =>
    "'default' on field '" ++ field ++ "' has no effect without 'insertable'"
  | .nameCollision name _ =>
    "generated name '" ++ name ++ "' collides with an existing attribute"
  | .unknownPatchField field target _ =>
    "patch field '" ++ field ++ "' is not a non-identifier field of '" ++ target ++ "'"
  | .unresolvedPatchTarget path _ =>
    "patch target '" ++ path ++ "' does not name an entity class"
  | .branchCapacityExceeded count limit =>
    "query has " ++ toString count ++ " branch points, at most " ++ toString limit
      ++ " are supported (" ++ Decimal.powerOfTwoText limit ++ " variants)"
  | .shapeMismatch cause => cause.message
  | .invalidSkeleton cause => cause.message
  | .compilation cause => cause.message

/-- The wording of an error, preceded by its location unless that is empty. -/
def message (error : BuildError) : String :=
  match error.location? with
  | some location =>
    if location.isEmpty then error.description else location ++ ": " ++ error.description
  | none => error.description

/-- The structured context of an error. -/
def details : BuildError → List (String × Value)
  | .duplicateAttribute key _ => [("attribute", .text key)]
  | .missingAttribute key _ => [("attribute", .text key)]
  | .unknownAttribute key allowed _ =>
    [("attribute", .text key), ("allowed_attributes", .ofTexts allowed)]
  | .invalidAttribute key _ expected _ =>
    [("attribute", .text key), ("expected", .text expected.text)]
  | .unknownIdentifierField field fields _ =>
    [("id", .text field), ("fields", .ofTexts fields)]
  | .defaultWithoutInsertable field _ => [("field", .text field)]
  | .nameCollision name _ => [("name", .text name)]
  | .unknownPatchField field target _ => [("field", .text field), ("target", .text target)]
  | .unresolvedPatchTarget path _ => [("target", .text path)]
  | .branchCapacityExceeded count limit =>
    [("branch_points", .int count), ("max_branch_points", .int limit)]
  | .shapeMismatch cause => cause.details
  | .invalidSkeleton cause => cause.details
  | .compilation cause => (cause.operation?.map fun name => ("operation", .text name)).toList

end BuildError

end SqlMapping
