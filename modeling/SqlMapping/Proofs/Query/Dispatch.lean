import Mathlib.Algebra.Order.Ring.Nat
import Mathlib.Data.List.Induction
import SqlMapping.Proofs.Outcome
import SqlMapping.Query.Conditional

/-!
# Dispatch of conditional queries

A call tries the rendered branches of a query one after the other.  This module compares that
search with a direct reading of the skeleton: evaluate every guard from left to right, leave
out the branch points whose guard does not hold, render what is left and resolve its arguments.

The main statement says that both give the same selection or fail in the same way, and that a
call never runs out of branches.
-/

namespace SqlMapping.Query

open Outcome

/-! ## Guards -/

namespace Source

variable {parameters : Parameters} {guard : Source}

/--
A named guard holds where its parameter is supplied with a value, be it a false one, and a function
where it gives a value that is not a false one.
-/
theorem holds_eq_true_iff :
    guard.holds parameters = .ok true ↔
      (∃ name value,
          guard = .parameter name ∧ parameters.lookup name = some value ∧ value.isNull = false) ∨
        ∃ label compute value,
          guard = .computed label compute ∧ compute parameters = .ok value ∧
            value.truthy = true := by
  cases guard with
  | parameter name =>
      rw [holds, Except.ok.injEq]
      cases found : parameters.lookup name with
      | none => simp [found, Value.isNull]
      | some value => simp [found]
  | computed label compute =>
      rw [holds, map_eq_ok_iff]
      simp
  | other value => simp [holds]

/-- Only a function can fail as a guard, and the guard fails as it does. -/
theorem holds_eq_error_iff {failure : CallError} :
    guard.holds parameters = .error failure ↔
      ∃ label compute, guard = .computed label compute ∧ compute parameters = .error failure := by
  cases guard with
  | parameter name => simp [holds]
  | computed label compute =>
      rw [holds, map_eq_error_iff]
      simp
  | other value => simp [holds]

end Source

/-! ## Reading a skeleton directly -/

/-- The parts of a skeleton as it is written, if it is well-formed. -/
def skeletonParts (items : List SkeletonItem) : Except SkeletonFault (List Part) :=
  Token.ofItems items >>= checkSkeleton

/-- The branch points of a skeleton, in order. -/
def branchPoints (parts : List Part) : List BranchPoint :=
  parts.filterMap Part.branchPoint?

/-- Whether the guards of a skeleton hold, from left to right up to the first that fails. -/
def guardValues (parameters : Parameters) (parts : List Part) : Except CallError (List Bool) :=
  (branchPoints parts).mapM fun point => point.guard.holds parameters

/-- Whether the guard of a branch point holds. -/
def BranchPoint.isKept (parameters : Parameters) (point : BranchPoint) : Bool :=
  match point.guard.holds parameters with
  | .ok value => value
  | .error _ => false

/-- The fragments that a part contributes to a call. -/
def Part.keptFragments (parameters : Parameters) : Part → List Fragment
  | .fragment single => [single]
  | .branchPoint point => if point.isKept parameters then point.fragments else []

/-- The fragments that are left of a skeleton without the branch points that do not hold. -/
def keptFragments (parameters : Parameters) (parts : List Part) : List Fragment :=
  parts.flatMap (Part.keptFragments parameters)

/-- The sum of `2 ^ i` over the positions `i` of the guards that do not hold. -/
def droppedIndex (values : List Bool) : Nat :=
  ((values.zipIdx.filter fun (value, _) => !value).map fun (_, position) =>
    Nat.pow 2 position).sum

/-- What a call selects by a direct reading of a skeleton. -/
def evaluate (backend : Backend) (parameters : Parameters) (parts : List Part) :
    Except CallError Selection := do
  let values ← guardValues parameters parts
  let fragments := keptFragments parameters parts
  let arguments ← (fragments.filterMap Fragment.source?).mapM (Source.resolve parameters)
  return ⟨droppedIndex values, renderFragments backend fragments, arguments⟩

/-- The branch that a direct reading of a skeleton leads to. -/
def keptBranch (parameters : Parameters) (parts : List Part) : Branch where
  guards := (branchPoints parts).filter (BranchPoint.isKept parameters)
  fragments := keptFragments parameters parts

@[simp]
theorem branchPoints_append (left right : List Part) :
    branchPoints (left ++ right) = branchPoints left ++ branchPoints right := by
  simp [branchPoints]

@[simp]
theorem keptFragments_append (parameters : Parameters) (left right : List Part) :
    keptFragments parameters (left ++ right) =
      keptFragments parameters left ++ keptFragments parameters right := by
  simp [keptFragments]

@[simp]
theorem droppedIndex_nil : droppedIndex [] = 0 := rfl

/-- A further guard weighs twice as much as the one before it. -/
theorem droppedIndex_append_singleton (values : List Bool) (value : Bool) :
    droppedIndex (values ++ [value]) =
      droppedIndex values + if value then 0 else Nat.pow 2 values.length := by
  cases value <;> simp [droppedIndex, List.zipIdx_append]

theorem guardValues_append_fragment
    (parameters : Parameters)
    (parts : List Part)
    (fragment : Fragment) :
    guardValues parameters (parts ++ [.fragment fragment]) = guardValues parameters parts := by
  have same : branchPoints (parts ++ [.fragment fragment]) = branchPoints parts := by
    simp [branchPoints, Part.branchPoint?]
  rw [guardValues, same, guardValues]

/-- The guard of a further branch point is evaluated after all others. -/
theorem guardValues_append_branchPoint
    (parameters : Parameters)
    (parts : List Part)
    (point : BranchPoint) :
    guardValues parameters (parts ++ [.branchPoint point]) =
      guardValues parameters parts >>= fun values =>
        (point.guard.holds parameters).map fun value => values ++ [value] := by
  have split : branchPoints (parts ++ [.branchPoint point]) = branchPoints parts ++ [point] := by
    simp [branchPoints, Part.branchPoint?]
  rw [guardValues, split, List.mapM_append, guardValues]
  cases (branchPoints parts).mapM fun point => point.guard.holds parameters with
  | error error => rfl
  | ok values => cases value : point.guard.holds parameters <;> simp [value]

theorem length_guardValues
    {parameters : Parameters}
    {parts : List Part}
    {values : List Bool}
    (evaluated : guardValues parameters parts = .ok values) :
    values.length = branchPointCount parts := by
  rw [← (mapM_eq_ok_iff.1 evaluated).length_eq, branchPoints, branchPointCount,
    List.length_filterMap_eq_countP]

/-! ## The search for a branch -/

/-- The first of some branches whose guards hold, with its position among them. -/
def firstAccepted (parameters : Parameters) :
    List Branch → Except CallError (Option (Nat × Branch))
  | [] => .ok none
  | branch :: rest =>
    match branch.accepts parameters with
    | .error error => .error error
    | .ok true => .ok (some (0, branch))
    | .ok false =>
      (firstAccepted parameters rest).map (Option.map fun found => (found.1 + 1, found.2))

/-- Guards are evaluated in order, up to the first that does not hold. -/
theorem matchesAll_append
    (parameters : Parameters)
    (left right : List BranchPoint) :
    Branch.matchesAll parameters (left ++ right) =
      Branch.matchesAll parameters left >>= fun value =>
        if value then Branch.matchesAll parameters right else .ok false := by
  induction left with
  | nil => simp [Branch.matchesAll]
  | cons point rest inductionHypothesis =>
      rw [List.cons_append, Branch.matchesAll, Branch.matchesAll]
      cases point.guard.holds parameters with
      | error error => rfl
      | ok value =>
          cases value with
          | false => rfl
          | true => exact inductionHypothesis

@[simp]
theorem accepts_add (parameters : Parameters) (fragment : Fragment) (branch : Branch) :
    (branch.add fragment).accepts parameters = branch.accepts parameters := rfl

/-- An assumed branch point is looked at after all other guards of the branch. -/
theorem accepts_assume (parameters : Parameters) (point : BranchPoint) (branch : Branch) :
    (branch.assume point).accepts parameters =
      branch.accepts parameters >>= fun value =>
        if value then point.guard.holds parameters else .ok false := by
  rw [Branch.accepts, Branch.assume, matchesAll_append, Branch.accepts]
  congr 1
  funext value
  cases value with
  | false => rfl
  | true =>
      rw [if_pos rfl, if_pos rfl, Branch.matchesAll]
      cases point.guard.holds parameters with
      | error error => rfl
      | ok holds => cases holds <;> rfl

/-- Of two lists of branches, the second is tried when none of the first is accepted. -/
theorem firstAccepted_append (parameters : Parameters) (left right : List Branch) :
    firstAccepted parameters (left ++ right) =
      firstAccepted parameters left >>= fun found =>
        match found with
        | some found => .ok (some found)
        | none =>
          (firstAccepted parameters right).map
            (Option.map fun found => (left.length + found.1, found.2)) := by
  induction left with
  | nil =>
      cases later : firstAccepted parameters right with
      | error error => simp [firstAccepted, later]
      | ok found => cases found <;> simp [firstAccepted, later]
  | cons branch rest inductionHypothesis =>
      rw [List.cons_append, firstAccepted, firstAccepted]
      cases branch.accepts parameters with
      | error error => rfl
      | ok accepted =>
          cases accepted with
          | true => rfl
          | false =>
              simp only [inductionHypothesis]
              cases firstAccepted parameters rest with
              | error error => rfl
              | ok found =>
                  cases found with
                  | some found => rfl
                  | none =>
                      cases firstAccepted parameters right with
                      | error error => rfl
                      | ok later =>
                          cases later with
                          | none => rfl
                          | some later => simp; omega

/-- A fixed fragment does not change which branch is accepted. -/
theorem firstAccepted_map_add
    (parameters : Parameters)
    (fragment : Fragment)
    (branches : List Branch) :
    firstAccepted parameters (branches.map (Branch.add fragment)) =
      (firstAccepted parameters branches).map
        (Option.map fun found => (found.1, found.2.add fragment)) := by
  induction branches with
  | nil => rfl
  | cons branch rest inductionHypothesis =>
      rw [List.map_cons, firstAccepted, firstAccepted, accepts_add]
      cases branch.accepts parameters with
      | error error => rfl
      | ok accepted =>
          cases accepted with
          | true => rfl
          | false =>
              simp only [inductionHypothesis]
              cases firstAccepted parameters rest with
              | error error => rfl
              | ok found => cases found <;> rfl

/-- A guard that fails before is not hidden by a further branch point. -/
theorem firstAccepted_map_assume_of_error
    {parameters : Parameters}
    {branches : List Branch}
    {error : CallError}
    (point : BranchPoint)
    (failed : firstAccepted parameters branches = .error error) :
    firstAccepted parameters (branches.map (Branch.assume point)) = .error error := by
  induction branches with
  | nil => simp [firstAccepted] at failed
  | cons branch rest inductionHypothesis =>
      rw [firstAccepted] at failed
      rw [List.map_cons, firstAccepted, accepts_assume]
      cases accepted : branch.accepts parameters with
      | error cause => simpa [accepted] using failed
      | ok value =>
          cases value with
          | true => simp [accepted] at failed
          | false =>
              cases later : firstAccepted parameters rest with
              | ok found => simp [accepted, later] at failed
              | error cause =>
                  have equal : cause = error := by simpa [accepted, later] using failed
                  subst cause
                  simp [inductionHypothesis later]

/-- A further guard that fails is reached through the branch that was accepted before. -/
theorem firstAccepted_map_assume_of_guard_error
    {parameters : Parameters}
    {branches : List Branch}
    {found : Nat × Branch}
    {point : BranchPoint}
    {error : CallError}
    (accepted : firstAccepted parameters branches = .ok (some found))
    (failed : point.guard.holds parameters = .error error) :
    firstAccepted parameters (branches.map (Branch.assume point)) = .error error := by
  induction branches generalizing found with
  | nil => simp [firstAccepted] at accepted
  | cons branch rest inductionHypothesis =>
      rw [firstAccepted] at accepted
      rw [List.map_cons, firstAccepted, accepts_assume]
      cases value : branch.accepts parameters with
      | error cause => simp [value] at accepted
      | ok holds =>
          cases holds with
          | true => simp [failed]
          | false =>
              cases later : firstAccepted parameters rest with
              | error cause => simp [value, later] at accepted
              | ok next =>
                  cases next with
                  | none => simp [value, later] at accepted
                  | some next => simp [inductionHypothesis later]

/-- A further guard that holds keeps the branch that was accepted before. -/
theorem firstAccepted_map_assume_of_holds
    {parameters : Parameters}
    {branches : List Branch}
    {found : Nat × Branch}
    {point : BranchPoint}
    (accepted : firstAccepted parameters branches = .ok (some found))
    (holds : point.guard.holds parameters = .ok true) :
    firstAccepted parameters (branches.map (Branch.assume point)) =
      .ok (some (found.1, found.2.assume point)) := by
  induction branches generalizing found with
  | nil => simp [firstAccepted] at accepted
  | cons branch rest inductionHypothesis =>
      rw [firstAccepted] at accepted
      rw [List.map_cons, firstAccepted, accepts_assume]
      cases value : branch.accepts parameters with
      | error cause => simp [value] at accepted
      | ok verdict =>
          cases verdict with
          | true =>
              have equal : (0, branch) = found := by simpa [value] using accepted
              subst found
              simp [holds]
          | false =>
              cases later : firstAccepted parameters rest with
              | error cause => simp [value, later] at accepted
              | ok next =>
                  cases next with
                  | none => simp [value, later] at accepted
                  | some next =>
                      have equal : (next.1 + 1, next.2) = found := by
                        simpa [value, later] using accepted
                      subst found
                      simp [inductionHypothesis later]

/-- A further guard that does not hold rules out every branch that assumes it. -/
theorem firstAccepted_map_assume_of_dropped
    {parameters : Parameters}
    {branches : List Branch}
    {point : BranchPoint}
    (evaluated : ∀ branch ∈ branches, ∃ value, branch.accepts parameters = .ok value)
    (dropped : point.guard.holds parameters = .ok false) :
    firstAccepted parameters (branches.map (Branch.assume point)) = .ok none := by
  induction branches with
  | nil => rfl
  | cons branch rest inductionHypothesis =>
      rcases evaluated branch List.mem_cons_self with ⟨value, accepted⟩
      have remaining := inductionHypothesis fun member inRest =>
        evaluated member (List.mem_cons_of_mem branch inRest)
      rw [List.map_cons, firstAccepted, accepts_assume, accepted]
      cases value <;> simp [dropped, remaining]

/-! ## The branches of a skeleton -/

@[simp]
theorem allBranches_append_singleton (parts : List Part) (part : Part) :
    allBranches (parts ++ [part]) = extend (allBranches parts) part := by
  simp [allBranches]

/-- If no guard of a skeleton fails, none of its branches does. -/
theorem exists_accepts_of_mem_allBranches
    {parameters : Parameters}
    {parts : List Part}
    {values : List Bool}
    (evaluated : guardValues parameters parts = .ok values) :
    ∀ branch ∈ allBranches parts, ∃ value, branch.accepts parameters = .ok value := by
  induction parts using List.reverseRecOn generalizing values with
  | nil =>
      intro branch member
      obtain rfl : branch = ⟨[], []⟩ := by simpa [allBranches] using member
      exact ⟨true, rfl⟩
  | append_singleton parts part inductionHypothesis =>
      intro branch member
      rw [allBranches_append_singleton] at member
      cases part with
      | fragment fragment =>
          rw [guardValues_append_fragment] at evaluated
          rcases List.mem_map.1 member with ⟨shorter, inShorter, rfl⟩
          exact inductionHypothesis evaluated shorter inShorter
      | branchPoint point =>
          rw [guardValues_append_branchPoint] at evaluated
          rcases bind_eq_ok_iff.1 evaluated with ⟨before, beforeEvaluated, last⟩
          rcases List.mem_append.1 member with assumed | unchanged
          · rcases List.mem_map.1 assumed with ⟨shorter, inShorter, rfl⟩
            rcases inductionHypothesis beforeEvaluated shorter inShorter with ⟨value, accepted⟩
            rw [accepts_assume, accepted, ok_bind]
            cases value with
            | false => exact ⟨false, rfl⟩
            | true =>
                cases holds : point.guard.holds parameters with
                | error error => simp [holds] at last
                | ok value => exact ⟨value, rfl⟩
          · exact inductionHypothesis beforeEvaluated branch unchanged

/-- The branch of a direct reading grows with the skeleton by what the last part contributes. -/
theorem keptBranch_append_fragment
    (parameters : Parameters)
    (parts : List Part)
    (fragment : Fragment) :
    keptBranch parameters (parts ++ [.fragment fragment]) =
      (keptBranch parameters parts).add fragment := by
  simp [keptBranch, Branch.add, branchPoints, Part.branchPoint?, keptFragments,
    Part.keptFragments]

theorem keptBranch_append_branchPoint
    {parameters : Parameters}
    {point : BranchPoint}
    {value : Bool}
    (holds : point.guard.holds parameters = .ok value)
    (parts : List Part) :
    keptBranch parameters (parts ++ [.branchPoint point]) =
      if value then (keptBranch parameters parts).assume point
      else keptBranch parameters parts := by
  have kept : point.isKept parameters = value := by simp [BranchPoint.isKept, holds]
  cases value <;>
    simp [keptBranch, Branch.assume, branchPoints, Part.branchPoint?, keptFragments,
      Part.keptFragments, kept]

/--
The first branch that is accepted is the one of the direct reading, and its position is given
by the guards that do not hold; a guard that fails ends the search, the first one first.
-/
theorem firstAccepted_allBranches (parameters : Parameters) (parts : List Part) :
    firstAccepted parameters (allBranches parts) =
      (guardValues parameters parts).map fun values =>
        some (droppedIndex values, keptBranch parameters parts) := by
  induction parts using List.reverseRecOn with
  | nil => rfl
  | append_singleton parts part inductionHypothesis =>
      rw [allBranches_append_singleton]
      cases part with
      | fragment fragment =>
          rw [extend, firstAccepted_map_add, inductionHypothesis, guardValues_append_fragment,
            keptBranch_append_fragment]
          cases guardValues parameters parts <;> rfl
      | branchPoint point =>
          rw [extend, firstAccepted_append, guardValues_append_branchPoint]
          cases evaluated : guardValues parameters parts with
          | error error =>
              have failed : firstAccepted parameters (allBranches parts) = .error error := by
                rw [inductionHypothesis, evaluated, map_error]
              rw [firstAccepted_map_assume_of_error point failed]
              rfl
          | ok values =>
              have accepted :
                  firstAccepted parameters (allBranches parts) =
                    .ok (some (droppedIndex values, keptBranch parameters parts)) := by
                rw [inductionHypothesis, evaluated, map_ok]
              cases holds : point.guard.holds parameters with
              | error error =>
                  rw [firstAccepted_map_assume_of_guard_error accepted holds]
                  rfl
              | ok value =>
                  rw [keptBranch_append_branchPoint holds]
                  cases value with
                  | true =>
                      rw [firstAccepted_map_assume_of_holds accepted holds]
                      simp [droppedIndex_append_singleton]
                  | false =>
                      have none :=
                        firstAccepted_map_assume_of_dropped
                          (exists_accepts_of_mem_allBranches evaluated) holds
                      rw [none, ok_bind, accepted]
                      simp [droppedIndex_append_singleton, length_allBranches,
                        length_guardValues evaluated, Nat.add_comm]

/-- A direct reading fails as one of its guards or as one of its arguments. -/
theorem exists_failure_of_evaluate
    {backend : Backend}
    {parameters : Parameters}
    {parts : List Part}
    {error : CallError}
    (failed : evaluate backend parameters parts = .error error) :
    (∃ point ∈ branchPoints parts, point.guard.holds parameters = .error error) ∨
      ∃ source ∈ (keptFragments parameters parts).filterMap Fragment.source?,
        source.resolve parameters = .error error := by
  rw [evaluate] at failed
  cases evaluated : guardValues parameters parts with
  | error cause =>
      rw [evaluated, error_bind, Except.error.injEq] at failed
      subst cause
      exact Or.inl (exists_mem_of_mapM_eq_error evaluated)
  | ok values =>
      rw [evaluated, ok_bind] at failed
      cases bound : ((keptFragments parameters parts).filterMap Fragment.source?).mapM
          (Source.resolve parameters) with
      | ok arguments => simp [bound] at failed
      | error cause =>
          have equal : cause = error := by simpa [bound] using failed
          subst cause
          exact Or.inr (exists_mem_of_mapM_eq_error bound)

/-! ## Selecting a variant -/

namespace ConditionalQuery

/-- The variant that is selected is that of the first branch that is accepted. -/
theorem selectFrom_zipIdx
    (backend : Backend)
    (parameters : Parameters)
    (branches : List Branch)
    (start : Nat) :
    selectFrom parameters
        ((branches.zipIdx start).map fun (branch, index) =>
          ⟨index, branch, branch.render backend⟩) =
      firstAccepted parameters branches >>= fun found =>
        match found with
        | none => .error .unmatched
        | some (position, branch) =>
          (branch.bind parameters).map fun arguments =>
            ⟨start + position, branch.render backend, arguments⟩ := by
  induction branches generalizing start with
  | nil => rfl
  | cons branch rest inductionHypothesis =>
      rw [List.zipIdx_cons, List.map_cons, selectFrom, firstAccepted]
      cases branch.accepts parameters with
      | error error => rfl
      | ok accepted =>
          cases accepted with
          | true => rfl
          | false =>
              simp only [inductionHypothesis]
              cases firstAccepted parameters rest with
              | error error => rfl
              | ok found =>
                  cases found with
                  | none => rfl
                  | some found => simp [Nat.add_assoc, Nat.add_comm 1]

/-- The variants of a skeleton are searched with the result of its direct reading. -/
theorem selectFrom_variantsOf_allBranches
    (backend : Backend)
    (parameters : Parameters)
    (parts : List Part) :
    selectFrom parameters (variantsOf backend (allBranches parts)) =
      evaluate backend parameters parts := by
  rw [variantsOf, selectFrom_zipIdx, firstAccepted_allBranches, evaluate]
  cases guardValues parameters parts with
  | error error => rfl
  | ok values =>
      have bound :
          (keptBranch parameters parts).bind parameters =
            ((keptFragments parameters parts).filterMap Fragment.source?).mapM
              (Source.resolve parameters) := rfl
      simp only [map_ok, ok_bind, bound]
      cases ((keptFragments parameters parts).filterMap Fragment.source?).mapM
          (Source.resolve parameters) with
      | error error => rfl
      | ok arguments => simp [Branch.render, keptBranch]

/-- A checked skeleton that compiles has the variants of all its branches. -/
theorem variants_of_ofParts
    {output : Output}
    {backend : Backend}
    {limit : Int}
    {parts : List Part}
    {query : ConditionalQuery}
    (compiled : ofParts output backend limit parts = .ok query) :
    query.backend = backend ∧ query.variants = variantsOf backend (allBranches parts) := by
  rw [ofParts, expand] at compiled
  rcases bind_eq_ok_iff.1 compiled with ⟨branches, expanded, checked⟩
  have all : allBranches parts = branches := by
    by_cases excess : limit < branchPointCount parts
    · simp [excess, Except.mapError] at expanded
    · simpa [excess, Except.mapError] using expanded
  subst branches
  dsimp only at checked
  split at checked
  · cases checked
  · cases checked
  · cases checked
    exact ⟨rfl, rfl⟩

/-- A skeleton that compiles is well-formed, and its variants are those of all its branches. -/
theorem exists_parts_of_compile
    {workspace : Workspace}
    {choice : BackendChoice}
    {limit : Option Int}
    {output : Output}
    {items : List SkeletonItem}
    {query : ConditionalQuery}
    (compiled : compile workspace choice limit output items = .ok query) :
    ∃ parts : List Part,
      skeletonParts items = .ok parts ∧
        workspace.resolve choice = .ok query.backend ∧
          query.variants = variantsOf query.backend (allBranches parts) := by
  rw [compile] at compiled
  rcases bind_eq_ok_iff.1 compiled with ⟨tokens, tokensRead, compiled⟩
  rcases bind_eq_ok_iff.1 compiled with ⟨backend, resolved, compiled⟩
  rcases bind_eq_ok_iff.1 compiled with ⟨parts, checked, compiled⟩
  rcases variants_of_ofParts compiled with ⟨rfl, variants⟩
  refine ⟨parts, ?_, mapError_eq_ok_iff.1 resolved, variants⟩
  exact bind_eq_ok_iff.2 ⟨tokens, mapError_eq_ok_iff.1 tokensRead, mapError_eq_ok_iff.1 checked⟩

/--
A call selects what a direct reading of the skeleton leads to, with the failures of guards and
of arguments in the order of the skeleton; only a guard or an argument can say that no branch
matches.
-/
theorem select_eq_evaluate
    {workspace : Workspace}
    {choice : BackendChoice}
    {limit : Option Int}
    {output : Output}
    {items : List SkeletonItem}
    {query : ConditionalQuery}
    (compiled : compile workspace choice limit output items = .ok query)
    (parameters : Parameters) :
    ∃ parts : List Part,
      skeletonParts items = .ok parts ∧
        query.select parameters = evaluate query.backend parameters parts ∧
          (query.select parameters = .error .unmatched →
            (∃ point ∈ branchPoints parts,
                point.guard.holds parameters = .error .unmatched) ∨
              ∃ source ∈ (keptFragments parameters parts).filterMap Fragment.source?,
                source.resolve parameters = .error .unmatched) := by
  rcases exists_parts_of_compile compiled with ⟨parts, read, -, variants⟩
  have selected : query.select parameters = evaluate query.backend parameters parts := by
    rw [select, variants, selectFrom_variantsOf_allBranches]
  refine ⟨parts, read, selected, fun unmatched => ?_⟩
  rw [selected] at unmatched
  exact exists_failure_of_evaluate unmatched

/-- A search by a name, in an order and up to a number of rows, all optional. -/
def optionalSearch : List SkeletonItem :=
  [.literal "SELECT id FROM users",
    .branch (.parameter "name") [.literal "WHERE name =", .argument (.parameter "name")],
    .branch (.computed "sorted" (Source.supplied · "sorted")) [.literal "ORDER BY id"],
    .branch (.parameter "limit") [.literal "LIMIT", .argument (.parameter "limit")]]

/--
A search without a name and without an order goes by the last of its three guards alone, although
the bound is a false value; and it fails as the function does of its second guard.
-/
theorem select_optionalSearch :
    ∃ query : ConditionalQuery,
      compile .standard (.registered "sqlite") none .dict optionalSearch = .ok query ∧
        query.select [("sorted", .bool false), ("limit", .int 0)] =
            .ok ⟨3, "SELECT id FROM users LIMIT ?", [.int 0]⟩ ∧
          query.select [("limit", .int 0)] = .error (.missingKey "sorted") := by
  have succeeds :
      (compile .standard (.registered "sqlite") none .dict optionalSearch).isOk = true := by
    decide +kernel
  rcases exists_eq_ok_of_isOk succeeds with ⟨query, compiled⟩
  have reads :
      (skeletonParts optionalSearch).map (fun parts =>
          (evaluate .sqlite [("sorted", .bool false), ("limit", .int 0)] parts,
            evaluate .sqlite [("limit", .int 0)] parts)) =
        .ok
          (.ok ⟨3, "SELECT id FROM users LIMIT ?", [.int 0]⟩, .error (.missingKey "sorted")) :=
    rfl
  rcases exists_parts_of_compile compiled with ⟨-, -, resolved, -⟩
  have isBackend : query.backend = .sqlite := (Except.ok.inj resolved).symm
  rcases select_eq_evaluate compiled [("sorted", .bool false), ("limit", .int 0)] with
    ⟨parts, read, selected, -⟩
  rcases select_eq_evaluate compiled [("limit", .int 0)] with ⟨_, readAgain, failed, -⟩
  cases Except.ok.inj (read.symm.trans readAgain)
  rw [read, map_ok, Except.ok.injEq, Prod.mk.injEq] at reads
  rw [isBackend] at selected failed
  exact ⟨query, compiled, selected.trans reads.1, failed.trans reads.2⟩

end ConditionalQuery

end SqlMapping.Query
