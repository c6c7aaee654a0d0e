import SqlMapping.Error
import SqlMapping.Value.Comparison

/-!
# Query skeletons

A skeleton is a flat sequence of literal SQL, of arguments and of branch points.  A branch
point has a guard and fragments, which belong to the query only when the guard holds.  Guards
and arguments take their values from the parameters of the call: the parameter of a name, or
whatever a function computes from all of them.
-/

namespace SqlMapping.Query

/-- The parameters of a call, by name. -/
abbrev Parameters := List (String × Value)

/-- Why the parameters of a call do not give a value. -/
inductive CallError where
  /-- A function looked for a parameter that was not supplied. -/
  | missingKey (name : String)
  /-- A named argument was not supplied. -/
  | missingParameter (name : String)
  /-- A function compared values that have no order. -/
  | unordered (cause : Value.Unordered)
  /-- The source of an argument is of a type that cannot be looked up. -/
  | unhashable (typeName : String)
  /-- A member was called with a parameter that has the name of one of its own arguments. -/
  | repeatedArgument (member argument : String)
  /-- No branch of the query matched. -/
  | unmatched
deriving DecidableEq

/-- The wording of a failed call. -/
def CallError.message : CallError → String
  | .missingKey name => name
  | .missingParameter name => "missing query parameter '" ++ name ++ "'"
  | .unordered cause => cause.message
  | .unhashable typeName => "unhashable type: '" ++ typeName ++ "'"
  | .repeatedArgument member argument =>
    member ++ "() got multiple values for argument '" ++ argument ++ "'"
  | .unmatched => "no query branch matched the given parameters"

/-- Where a guard or an argument takes its value from. -/
inductive Source where
  /-- The parameter of a name. -/
  | parameter (name : String)
  /-- A labelled function of all parameters. -/
  | computed (label : String) (compute : Parameters → Except CallError Value)
  /-- Any other value, which names no parameter. -/
  | other (value : Value)

namespace Source

/-- The label by which a source is shown. -/
def label : Source → String
  | .parameter name => name
  | .computed label _ => label
  | .other value => value.literal

mutual

/-- The type that keeps a value from being looked up among the parameters, if there is one. -/
def unhashableType? : Value → Option String
  | .tuple items => unhashableAmong? items
  | .list items => some (Value.list items).typeName
  | .object entries => some (Value.object entries).typeName
  | .lookupOption _ argumentType => unhashableType? argumentType
  | .insertOption _ config => some (Value.object config).typeName
  | .record className _ => some className
  | _ => none

/-- The first type among some values that keeps a tuple of them from being looked up. -/
def unhashableAmong? : List Value → Option String
  | [] => none
  | item :: rest => (unhashableType? item).or (unhashableAmong? rest)

end

/-- The value of an argument. -/
def resolve (parameters : Parameters) : Source → Except CallError Value
  | .parameter name =>
    match parameters.lookup name with
    | some value => .ok value
    | none => .error (.missingParameter name)
  | .computed _ compute => compute parameters
  | .other value =>
    match unhashableType? value with
    | some typeName => .error (.unhashable typeName)
    | none => .error (.missingParameter value.plain)

/-- Whether a guard holds: a named one when its parameter is there and has a value. -/
def holds (parameters : Parameters) : Source → Except CallError Bool
  | .parameter name => .ok (!((parameters.lookup name).getD .null).isNull)
  | .computed _ compute => (compute parameters).map Value.truthy
  | .other _ => .ok false

/-! ## Functions of the parameters -/

/-- The value of a parameter that has to be supplied. -/
def supplied (parameters : Parameters) (name : String) : Except CallError Value :=
  match parameters.lookup name with
  | some value => .ok value
  | none => .error (.missingKey name)

/-- Whether a parameter is greater than a value. -/
def greater (name : String) (bound : Value) (parameters : Parameters) :
    Except CallError Value := do
  let value ← supplied parameters name
  return .bool (← (value.exceeds bound).mapError .unordered)

/-- Whether a parameter equals a value. -/
def equals (name : String) (other : Value) (parameters : Parameters) :
    Except CallError Value := do
  let value ← supplied parameters name
  return .bool (← (value.equal other).mapError .unordered)

/-- A parameter, or nothing when it is not supplied. -/
def optional (name : String) (parameters : Parameters) : Except CallError Value :=
  .ok ((parameters.lookup name).getD .null)

/-- The plain text of a parameter between percent signs. -/
def wrapped (name : String) (parameters : Parameters) : Except CallError Value := do
  let value ← supplied parameters name
  return .text ("%" ++ value.plain ++ "%")

/-- The same value for any parameters. -/
def constant (value : Value) (_ : Parameters) : Except CallError Value :=
  .ok value

/-- The number of parameters. -/
def count (parameters : Parameters) : Except CallError Value :=
  .ok (.int parameters.length)

end Source

/-- A literal or an argument. -/
inductive Fragment where
  | literal (text : String)
  | argument (source : Source)

namespace Fragment

/-- The source of an argument. -/
def source? : Fragment → Option Source
  | .literal _ => none
  | .argument source => some source

end Fragment

/-- A guard and the fragments that depend on it. -/
structure BranchPoint where
  guard : Source
  fragments : List Fragment

/-- A part of a skeleton. -/
inductive Part where
  | fragment (fragment : Fragment)
  | branchPoint (point : BranchPoint)

/-- The branch point of a part that is one. -/
def Part.branchPoint? : Part → Option BranchPoint
  | .fragment _ => none
  | .branchPoint point => some point

/-- A skeleton as it is written, before it is checked. -/
inductive SkeletonItem where
  | literal (text : String)
  | argument (source : Source)
  | branch (guard : Source) (items : List SkeletonItem)
  | other (value : Value)
deriving Inhabited

/-- An item whose branch points are well-formed, or a value that is no item at all. -/
inductive Token where
  | part (part : Part)
  | other (value : Value)

namespace Token

/-- The fragment that an item of a branch point has to be. -/
def asFragment (guard : Source) : Token → Except SkeletonFault Fragment
  | .part (.fragment fragment) => .ok fragment
  | .part (.branchPoint _) => .error (.nested guard.label)
  | .other value => .error (.badFragment value guard.label)

/-- The branch point that a guard and its items make. -/
def ofBranch (guard : Source) (items : List Token) : Except SkeletonFault Token :=
  match guard with
  | .other value => .error (.badGuard value)
  | guard =>
    (items.mapM (asFragment guard)).map fun fragments => .part (.branchPoint ⟨guard, fragments⟩)

mutual

/-- The token of an item; the items of a branch point are looked at before its guard. -/
def ofItem : SkeletonItem → Except SkeletonFault Token
  | .literal text => .ok (.part (.fragment (.literal text)))
  | .argument source => .ok (.part (.fragment (.argument source)))
  | .other value => .ok (.other value)
  | .branch guard items => (ofItems items).bind (ofBranch guard)

/-- The tokens of some items, in order. -/
def ofItems : List SkeletonItem → Except SkeletonFault (List Token)
  | [] => .ok []
  | item :: rest =>
    match ofItem item with
    | .error fault => .error fault
    | .ok token => (ofItems rest).map (token :: ·)

end

/-- The part that a token has to be. -/
def asPart : Token → Except SkeletonFault Part
  | .part found => .ok found
  | .other value => .error (.badToken value)

end Token

/-- Check that a skeleton has parts and nothing else. -/
def checkSkeleton (tokens : List Token) : Except SkeletonFault (List Part) :=
  if tokens.isEmpty then .error .empty else tokens.mapM Token.asPart

/-- The number of branch points of a skeleton. -/
def branchPointCount (parts : List Part) : Nat :=
  parts.countP fun part => part.branchPoint?.isSome

end SqlMapping.Query
