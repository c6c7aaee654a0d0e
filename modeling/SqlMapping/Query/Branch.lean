import SqlMapping.Backend
import SqlMapping.Query.Skeleton
import SqlMapping.Text.Integer

/-!
# Branches

A branch is one choice of guards that hold, with the fragments that then make up the query.
The branches of a skeleton are built in one walk: fixed parts are added to every branch, and a
branch point doubles the branches, those with its guard first.  The first branch whose guards
all hold is the most specific one; the last has no guards at all.

The main statement says that a skeleton with `n` branch points has `2 ^ n` branches.
-/

namespace SqlMapping.Query

/-- A choice of guards and the fragments that belong to it. -/
structure Branch where
  guards : List BranchPoint
  fragments : List Fragment

namespace Branch

/-- The sources of the arguments of a branch, in order. -/
def sources (branch : Branch) : List Source :=
  branch.fragments.filterMap Fragment.source?

/-- Whether all guards of a branch hold; the first that does not ends the check. -/
def matchesAll (parameters : Parameters) : List BranchPoint → Except CallError Bool
  | [] => .ok true
  | point :: rest =>
    match point.guard.holds parameters with
    | .error error => .error error
    | .ok false => .ok false
    | .ok true => matchesAll parameters rest

/-- Whether a branch is the one for some parameters, unless an earlier branch is. -/
def accepts (branch : Branch) (parameters : Parameters) : Except CallError Bool :=
  matchesAll parameters branch.guards

/-- The values of the arguments of a branch. -/
def bind (branch : Branch) (parameters : Parameters) : Except CallError (List Value) :=
  branch.sources.mapM (Source.resolve parameters)

/-- Add a fixed fragment to a branch. -/
def add (fragment : Fragment) (branch : Branch) : Branch :=
  { branch with fragments := branch.fragments ++ [fragment] }

/-- Add a branch point whose guard holds to a branch. -/
def assume (point : BranchPoint) (branch : Branch) : Branch where
  guards := branch.guards ++ [point]
  fragments := branch.fragments ++ point.fragments

end Branch

/-- Extend the branches built so far by one part. -/
def extend (branches : List Branch) : Part → List Branch
  | .fragment fragment => branches.map (Branch.add fragment)
  | .branchPoint point => branches.map (Branch.assume point) ++ branches

/-- All branches of a skeleton. -/
def allBranches (parts : List Part) : List Branch :=
  parts.foldl extend [⟨[], []⟩]

/-- Why a skeleton is not expanded. -/
inductive ExpansionFault where
  /-- The skeleton has more branch points than the limit allows. -/
  | capacity (count : Nat) (limit : Int)
  /-- The limit has no floating-point number, nor has the number of variants it stands for. -/
  | limitOutOfRange
  /-- The limit, or the number of variants it stands for, has too many digits to be written. -/
  | excessDigits
deriving DecidableEq

/-- The wording for a limit that is out of the range of numbers. -/
def ExpansionFault.rangeMessage : String := "int too large to convert to float"

/-- The wording for a number that has too many digits to be written. -/
def ExpansionFault.digitsMessage : String :=
  "Exceeds the limit (" ++ toString Text.digitLimit
    ++ " digits) for integer string conversion; use sys.set_int_max_str_digits() to increase"
    ++ " the limit"

/-- Why so many branch points are too many; the refusal shows the limit and `2 ^ limit`. -/
def ExpansionFault.ofExcess (count : Nat) (limit : Int) : ExpansionFault :=
  if Text.hasExcessDigits limit.natAbs then .excessDigits
  else if 0 ≤ limit then
    if Text.hasExcessDigits (Nat.pow 2 limit.toNat) then .excessDigits else .capacity count limit
  else if (Decimal.Binary64.ofInt limit).isSpecial then .limitOutOfRange
  else .capacity count limit

/-- The branches of a skeleton, unless it has too many branch points. -/
def expand (parts : List Part) (limit : Int) : Except ExpansionFault (List Branch) :=
  let count := branchPointCount parts
  if limit < count then .error (.ofExcess count limit)
  else .ok (allBranches parts)

/-- Every branch point doubles the number of branches. -/
theorem length_foldl_extend (parts : List Part) (branches : List Branch) :
    (parts.foldl extend branches).length =
      Nat.pow 2 (branchPointCount parts) * branches.length := by
  induction parts generalizing branches with
  | nil => simp [branchPointCount]
  | cons part rest inductionHypothesis =>
      rw [List.foldl_cons, inductionHypothesis]
      cases part with
      | fragment fragment => simp [extend, branchPointCount, Part.branchPoint?]
      | branchPoint point =>
          simp only [extend, List.length_append, List.length_map, branchPointCount,
            Part.branchPoint?, List.countP_cons, Option.isSome_some, if_true]
          rw [Nat.pow.eq_def 2 (_ + 1)]
          simp only [Nat.mul_eq]
          rw [Nat.mul_assoc, Nat.two_mul]

/-- A skeleton with `n` branch points has `2 ^ n` branches. -/
theorem length_allBranches (parts : List Part) :
    (allBranches parts).length = Nat.pow 2 (branchPointCount parts) := by
  simp [allBranches, length_foldl_extend]

/-! ## Rendering -/

/-- Characters after which an argument needs no blank. -/
def opensArgument : List Char := ['=', '<', '>', '(', ',']

/-- Characters that begin a literal without a blank before it. -/
def closesLiteral : List Char := [')', ',']

/-- What stands between the text so far and the next piece: a blank, unless it is not needed. -/
def glue (previous current : List Char) (isArgument : Bool) : List Char :=
  match previous.getLast? with
  | none => []
  | some last =>
    if Text.isBlank last || current.head?.any Text.isBlank then []
    else if isArgument && opensArgument.contains last then []
    else if !isArgument && current.head?.any closesLiteral.contains then []
    else [' ']

/-- Append a piece to the text so far; an empty piece changes nothing. -/
def appendPiece (previous current : List Char) (isArgument : Bool) : List Char :=
  if current.isEmpty then previous else previous ++ glue previous current isArgument ++ current

/-- Render fragments after a text that has `used` placeholders. -/
def renderFrom (backend : Backend) :
    (used : Nat) → (previous : List Char) → List Fragment → List Char
  | _, previous, [] => previous
  | used, previous, .literal text :: rest =>
    renderFrom backend used (appendPiece previous text.toList false) rest
  | used, previous, .argument _ :: rest =>
    renderFrom backend (used + 1)
      (appendPiece previous (backend.placeholder used).toList true) rest

/-- The SQL of a sequence of fragments. -/
def renderFragments (backend : Backend) (fragments : List Fragment) : String :=
  String.ofList (renderFrom backend 0 [] fragments)

/-- The SQL of a branch. -/
def Branch.render (branch : Branch) (backend : Backend) : String :=
  renderFragments backend branch.fragments

end SqlMapping.Query
