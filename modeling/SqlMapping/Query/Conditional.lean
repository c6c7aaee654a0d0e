import SqlMapping.Backend.Registry
import SqlMapping.Query.Branch
import SqlMapping.Query.Shape
import SqlMapping.Report

/-!
# Conditional queries

A conditional query is compiled once: every branch of its skeleton is rendered, and all
branches are checked to have one row shape that suits the output.  A call then selects the
first branch whose guards hold and binds its arguments.
-/

namespace SqlMapping.Query

/-- A rendered branch. -/
structure Variant where
  /-- The position of the branch; branches before it are tried first. -/
  index : Nat
  branch : Branch
  sql : String

/-- The labels of the guards of a variant. -/
def Variant.guardLabels (variant : Variant) : List String :=
  variant.branch.guards.map fun point => point.guard.label

/-- The labels of the arguments of a variant. -/
def Variant.argumentLabels (variant : Variant) : List String :=
  variant.branch.sources.map Source.label

/-- A query whose every variant has been rendered and checked. -/
structure ConditionalQuery where
  output : Output
  backend : Backend
  /-- The output names that all variants share, if they are known. -/
  outputNames : Option (List String)
  variants : List Variant

/-- The variant that a call selects, with its arguments. -/
structure Selection where
  index : Nat
  sql : String
  arguments : List Value

namespace ConditionalQuery

/-- Why a query cannot be compiled. -/
inductive CompileError where
  | refused (error : BuildError)
  | unnamed (fault : NameFault)
  /-- The limit of branch points is out of the range of numbers. -/
  | limitOutOfRange
  /-- A number that the refusal would show has too many digits. -/
  | excessDigits

/-- The error that a skeleton with too many branch points gives. -/
def CompileError.ofExpansion : ExpansionFault → CompileError
  | .capacity count limit => .refused (.branchCapacityExceeded count limit)
  | .limitOutOfRange => .limitOutOfRange
  | .excessDigits => .excessDigits

/-- Render the branches of a skeleton. -/
def variantsOf (backend : Backend) (branches : List Branch) : List Variant :=
  branches.zipIdx.map fun (branch, index) => ⟨index, branch, branch.render backend⟩

/-- Compile a checked skeleton for a backend. -/
def ofParts (output : Output) (backend : Backend) (limit : Int) (parts : List Part) :
    Except CompileError ConditionalQuery := do
  let branches ← (expand parts limit).mapError .ofExpansion
  let variants := variantsOf backend branches
  match checkShapes (variants.map Variant.sql) output (some backend.name) with
  | .error (.mismatch cause) => throw (.refused (.shapeMismatch cause))
  | .error (.unnamed fault) => throw (.unnamed fault)
  | .ok names => return ⟨output, backend, names, variants⟩

/-- Compile a skeleton; the limit of the settings applies unless another is given. -/
def compile
    (workspace : Workspace)
    (choice : BackendChoice)
    (limit : Option Int)
    (output : Output)
    (items : List SkeletonItem) :
    Except CompileError ConditionalQuery := do
  let invalid (fault : SkeletonFault) : CompileError := .refused (.invalidSkeleton fault)
  let tokens ← (Token.ofItems items).mapError invalid
  let backend ← (workspace.resolve choice).mapError .refused
  let parts ← (checkSkeleton tokens).mapError invalid
  ofParts output backend (limit.getD workspace.settings.maxBranchPoints) parts

/-- The notices about the variants of a compiled query. -/
def notices (query : ConditionalQuery) : List Notice :=
  query.variants.map fun variant =>
    .variant variant.index variant.guardLabels variant.sql

/-- The text that shows a query: its output, the number of variants and the backend. -/
def display (query : ConditionalQuery) : String :=
  "ConditionalQuery(" ++ query.output.displayName ++ ", variants="
    ++ toString query.variants.length ++ ", backend="
    ++ Text.quoteText query.backend.name ++ ")"

/-- The first of some variants whose guards hold, with its arguments. -/
def selectFrom (parameters : Parameters) : List Variant → Except CallError Selection
  | [] => .error .unmatched
  | variant :: rest =>
    match variant.branch.accepts parameters with
    | .error error => .error error
    | .ok false => selectFrom parameters rest
    | .ok true =>
      (variant.branch.bind parameters).map fun arguments =>
        ⟨variant.index, variant.sql, arguments⟩

/-- Select the variant for the parameters of a call. -/
def select (query : ConditionalQuery) (parameters : Parameters) : Except CallError Selection :=
  selectFrom parameters query.variants

/--
Select the variant for the parameters of a call of a member, whose own arguments have the names
`taken`; a parameter cannot have such a name.
-/
def call (query : ConditionalQuery) (member : String) (taken : List String)
    (parameters : Parameters) : Except CallError Selection :=
  match parameters.find? fun parameter => taken.contains parameter.1 with
  | some parameter => .error (.repeatedArgument ("ConditionalQuery." ++ member) parameter.1)
  | none => query.select parameters

end ConditionalQuery

end SqlMapping.Query
