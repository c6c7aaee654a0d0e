import Mathlib.Data.List.Nodup
import Mathlib.Data.Nat.Bitwise
import SqlMapping.Proofs.Query.Dispatch

/-!
# The branches of a skeleton

A skeleton with `n` branch points stands for `2 ^ n` queries, one for every choice of the branch
points that are kept.  Expanding it lists the queries so that the position of a query tells its
choice: the bit of every branch point that is left out is set.

The main statements say that the branches are those of all choices in this order, and when a
skeleton with too many branch points is refused as such.
-/

namespace SqlMapping.Query

variable {keeps other : Nat → Bool} {parts : List Part} {position index : Nat}

/-! ## Choosing branch points -/

/-- The branch points of a skeleton whose indices are kept, in order. -/
def chosenPoints (keeps : Nat → Bool) (parts : List Part) : List BranchPoint :=
  ((branchPoints parts).zipIdx.filter fun (_, index) => keeps index).map Prod.fst

/--
The fragments of a skeleton in order, those of a branch point only if its index is kept; the first
branch point has the given index.
-/
def chosenFragments (keeps : Nat → Bool) : (index : Nat) → List Part → List Fragment
  | _, [] => []
  | index, .fragment single :: rest => single :: chosenFragments keeps index rest
  | index, .branchPoint point :: rest =>
    (if keeps index then point.fragments else []) ++ chosenFragments keeps (index + 1) rest

/-- The branch of a skeleton in which the branch points of some indices are kept. -/
def chosenBranch (keeps : Nat → Bool) (parts : List Part) : Branch where
  guards := chosenPoints keeps parts
  fragments := chosenFragments keeps 0 parts

theorem length_branchPoints (parts : List Part) :
    (branchPoints parts).length = branchPointCount parts := by
  rw [branchPoints, branchPointCount, List.length_filterMap_eq_countP]

/-- The branch points of a further text are counted on. -/
theorem chosenFragments_append (keeps : Nat → Bool) (index : Nat) (left right : List Part) :
    chosenFragments keeps index (left ++ right) =
      chosenFragments keeps index left
        ++ chosenFragments keeps (index + branchPointCount left) right := by
  induction left generalizing index with
  | nil => simp [chosenFragments, branchPointCount]
  | cons part rest inductionHypothesis =>
      cases part with
      | fragment single =>
          have count : branchPointCount (.fragment single :: rest) = branchPointCount rest := by
            simp [branchPointCount, Part.branchPoint?]
          rw [List.cons_append, chosenFragments, chosenFragments, inductionHypothesis, count,
            List.cons_append]
      | branchPoint point =>
          have count :
              branchPointCount (.branchPoint point :: rest) = branchPointCount rest + 1 := by
            simp [branchPointCount, Part.branchPoint?]
          rw [List.cons_append, chosenFragments, chosenFragments, inductionHypothesis, count,
            List.append_assoc, Nat.add_assoc, Nat.add_comm 1]

/-- A fixed fragment belongs to every choice. -/
theorem chosenBranch_append_fragment (keeps : Nat → Bool) (parts : List Part) (single : Fragment) :
    chosenBranch keeps (parts ++ [.fragment single]) =
      (chosenBranch keeps parts).add single := by
  have points : branchPoints (parts ++ [.fragment single]) = branchPoints parts := by
    simp [branchPoints, Part.branchPoint?]
  simp only [chosenBranch, Branch.add, chosenPoints, points, chosenFragments_append,
    chosenFragments]

/-- A further branch point has the next index. -/
theorem chosenBranch_append_branchPoint
    (keeps : Nat → Bool)
    (parts : List Part)
    (point : BranchPoint) :
    chosenBranch keeps (parts ++ [.branchPoint point]) =
      if keeps (branchPointCount parts) then (chosenBranch keeps parts).assume point
      else chosenBranch keeps parts := by
  have points : branchPoints (parts ++ [.branchPoint point]) = branchPoints parts ++ [point] := by
    simp [branchPoints, Part.branchPoint?]
  cases kept : keeps (branchPointCount parts) <;>
    simp [chosenBranch, Branch.assume, chosenPoints, points, chosenFragments_append,
      chosenFragments, List.zipIdx_append, length_branchPoints, kept]

/-- Only the indices of the branch points matter. -/
theorem chosenBranch_congr (same : ∀ index < branchPointCount parts, keeps index = other index) :
    chosenBranch keeps parts = chosenBranch other parts := by
  induction parts using List.reverseRecOn with
  | nil => rfl
  | append_singleton parts part inductionHypothesis =>
      cases part with
      | fragment single =>
          have count :
              branchPointCount (parts ++ [.fragment single]) = branchPointCount parts := by
            simp [branchPointCount, Part.branchPoint?]
          rw [chosenBranch_append_fragment, chosenBranch_append_fragment,
            inductionHypothesis fun index below => same index (by rwa [count])]
      | branchPoint point =>
          have count :
              branchPointCount (parts ++ [.branchPoint point]) = branchPointCount parts + 1 := by
            simp [branchPointCount, Part.branchPoint?]
          rw [chosenBranch_append_branchPoint, chosenBranch_append_branchPoint,
            inductionHypothesis fun index below => same index (by omega),
            same (branchPointCount parts) (by omega)]

/-- The guards of a choice are the branch points of the kept indices. -/
theorem mem_chosenPoints_iff {point : BranchPoint} :
    point ∈ chosenPoints keeps parts ↔
      ∃ index, (branchPoints parts)[index]? = some point ∧ keeps index = true := by
  simp [chosenPoints, List.mem_zipIdx_iff_getElem?]

/-! ## Positions -/

/-- Whether the branch at a position keeps the branch point of an index: its bit is not set. -/
def keepsAt (position index : Nat) : Bool :=
  !position.testBit index

theorem keepsAt_of_lt (isBelow : position < Nat.pow 2 index) : keepsAt position index = true := by
  rw [keepsAt, Nat.testBit_lt_two_pow isBelow, Bool.not_false]

theorem keepsAt_pow_add_self (isBelow : position < Nat.pow 2 index) :
    keepsAt (Nat.pow 2 index + position) index = false := by
  have isSet : (2 ^ index + position).testBit index = !position.testBit index :=
    Nat.testBit_two_pow_add_eq position index
  rw [keepsAt]
  change (!(2 ^ index + position).testBit index) = false
  rw [isSet, Nat.testBit_lt_two_pow isBelow]
  rfl

theorem keepsAt_pow_add_of_lt {count : Nat} (isBelow : index < count) (position : Nat) :
    keepsAt (Nat.pow 2 count + position) index = keepsAt position index :=
  congrArg not (Nat.testBit_two_pow_add_gt isBelow position)

/-- The branches of a skeleton are those of all choices, in the order of their positions. -/
theorem allBranches_eq_map (parts : List Part) :
    allBranches parts =
      (List.range (Nat.pow 2 (branchPointCount parts))).map fun position =>
        chosenBranch (keepsAt position) parts := by
  induction parts using List.reverseRecOn with
  | nil => rfl
  | append_singleton parts part inductionHypothesis =>
      rw [allBranches_append_singleton, inductionHypothesis]
      cases part with
      | fragment single =>
          have count :
              branchPointCount (parts ++ [.fragment single]) = branchPointCount parts := by
            simp [branchPointCount, Part.branchPoint?]
          rw [extend, List.map_map, count]
          exact List.map_congr_left fun position _ =>
            (chosenBranch_append_fragment (keepsAt position) parts single).symm
      | branchPoint point =>
          -- The new branch point decides the bit above all others: positions without it keep the
          -- point and come first.
          have count :
              Nat.pow 2 (branchPointCount (parts ++ [.branchPoint point])) =
                Nat.pow 2 (branchPointCount parts) + Nat.pow 2 (branchPointCount parts) := by
            simp [branchPointCount, Part.branchPoint?, Nat.pow_succ, Nat.mul_two]
          rw [extend, count, List.range_add, List.map_append, List.map_map, List.map_map]
          congr 1
          · refine List.map_congr_left fun position member => ?_
            have isBelow := List.mem_range.1 member
            rw [Function.comp_apply, chosenBranch_append_branchPoint, keepsAt_of_lt isBelow,
              if_pos rfl]
          · refine List.map_congr_left fun position member => ?_
            have isBelow := List.mem_range.1 member
            have same :
                ∀ index < branchPointCount parts,
                  keepsAt position index =
                    keepsAt (Nat.pow 2 (branchPointCount parts) + position) index :=
              fun index below => (keepsAt_pow_add_of_lt below position).symm
            rw [Function.comp_apply, chosenBranch_append_branchPoint,
              keepsAt_pow_add_self isBelow, chosenBranch_congr same]
            rfl

/-- For every choice of indices there is one position. -/
theorem exists_unique_keepsAt (keeps : Nat → Bool) (count : Nat) :
    ∃! position, position < Nat.pow 2 count ∧
      ∀ index < count, keepsAt position index = keeps index := by
  let bits (index : Fin count) : Bool := !keeps index
  refine ⟨Nat.ofBits bits, ⟨Nat.ofBits_lt_two_pow bits, fun index below => ?_⟩, ?_⟩
  · rw [keepsAt, Nat.testBit_ofBits_lt bits index below, Bool.not_not]
  · rintro position ⟨isBelow, chosen⟩
    apply Nat.eq_of_testBit_eq
    intro index
    by_cases below : index < count
    · rw [Nat.testBit_ofBits_lt bits index below, ← Bool.not_not (position.testBit index)]
      exact congrArg not (chosen index below)
    · have small (number : Nat) (isSmall : number < Nat.pow 2 count) : number < 2 ^ index :=
        Nat.lt_of_lt_of_le isSmall (Nat.pow_le_pow_right (by decide) (Nat.le_of_not_lt below))
      rw [Nat.testBit_lt_two_pow (small position isBelow),
        Nat.testBit_lt_two_pow (small _ (Nat.ofBits_lt_two_pow bits))]

/-- A position that keeps more comes earlier. -/
theorem lt_of_keepsAt
    {count first second : Nat}
    (isBelow : first < Nat.pow 2 count)
    (includes : ∀ index < count, keepsAt second index = true → keepsAt first index = true)
    (isStrict : ∃ index < count, keepsAt first index = true ∧ keepsAt second index = false) :
    first < second := by
  have within : first &&& second = first := by
    apply Nat.eq_of_testBit_eq
    intro index
    rw [Nat.testBit_and]
    by_cases below : index < count
    · have kept := includes index below
      rw [keepsAt, keepsAt] at kept
      cases isSet : first.testBit index with
      | false => rfl
      | true =>
          rw [isSet] at kept
          cases other : second.testBit index with
          | true => rfl
          | false =>
              rw [other] at kept
              exact (Bool.false_ne_true (kept rfl)).elim
    · have small : first < 2 ^ index :=
        Nat.lt_of_lt_of_le isBelow
          (Nat.pow_le_pow_right (by decide) (Nat.le_of_not_lt below))
      rw [Nat.testBit_lt_two_pow small, Bool.false_and]
  refine Nat.lt_of_le_of_ne (within ▸ Nat.and_le_right) fun same => ?_
  rcases isStrict with ⟨index, -, kept, dropped⟩
  rw [same, dropped] at kept
  cases kept

/-! ## The order of the branches -/

/--
A list of branches goes through all choices of the branch points of a skeleton, each of them once.
The branch point of an index is kept at the positions without its bit, a branch that keeps more
than another precedes it, and the last branch keeps nothing.
-/
structure Enumerates (parts : List Part) (branches : List Branch) : Prop where
  length_eq : branches.length = Nat.pow 2 (branchPointCount parts)
  getElem?_eq
      (position : Nat)
      (isPosition : position < Nat.pow 2 (branchPointCount parts)) :
      branches[position]? = some (chosenBranch (keepsAt position) parts)
  exists_unique (keeps : Nat → Bool) :
      ∃! position, position < Nat.pow 2 (branchPointCount parts) ∧
        ∀ index < branchPointCount parts, keepsAt position index = keeps index
  precedes
      (first second : Nat)
      (isPosition : first < Nat.pow 2 (branchPointCount parts))
      (includes :
        ∀ index < branchPointCount parts,
          keepsAt second index = true → keepsAt first index = true)
      (isStrict :
        ∃ index < branchPointCount parts,
          keepsAt first index = true ∧ keepsAt second index = false) :
      first < second
  precedes_of_guards
      (distinct : (branchPoints parts).Nodup)
      (first second : Nat)
      (larger smaller : Branch)
      (isLarger : branches[first]? = some larger)
      (isSmaller : branches[second]? = some smaller)
      (includes : smaller.guards ⊆ larger.guards)
      (isStrict : ¬larger.guards ⊆ smaller.guards) :
      first < second
  guards_getLast? : branches.getLast?.map Branch.guards = some []

/-- The guards of a choice tell the choice if all branch points differ from one another. -/
theorem keeps_of_subset
    (distinct : (branchPoints parts).Nodup)
    (includes : chosenPoints keeps parts ⊆ chosenPoints other parts)
    (isIndex : index < branchPointCount parts)
    (isKept : keeps index = true) :
    other index = true := by
  rw [← length_branchPoints] at isIndex
  have member : (branchPoints parts)[index] ∈ chosenPoints keeps parts :=
    mem_chosenPoints_iff.2 ⟨index, List.getElem?_eq_getElem isIndex, isKept⟩
  rcases mem_chosenPoints_iff.1 (includes member) with ⟨same, isThere, keptThere⟩
  rcases List.getElem?_eq_some_iff.1 isThere with ⟨isBelow, equal⟩
  have sameIndex : same = index := (distinct.getElem_inj_iff).1 equal
  rwa [← sameIndex]

/-- The branches of a skeleton are all its choices. -/
theorem enumerates_allBranches (parts : List Part) : Enumerates parts (allBranches parts) := by
  have getElem?_eq (position : Nat) (isPosition : position < Nat.pow 2 (branchPointCount parts)) :
      (allBranches parts)[position]? = some (chosenBranch (keepsAt position) parts) := by
    rw [allBranches_eq_map, List.getElem?_map, List.getElem?_range isPosition]
    rfl
  have isPosition_of {position : Nat} {branch : Branch}
      (isThere : (allBranches parts)[position]? = some branch) :
      position < Nat.pow 2 (branchPointCount parts) := by
    rcases List.getElem?_eq_some_iff.1 isThere with ⟨isBelow, -⟩
    rwa [length_allBranches] at isBelow
  constructor
  case length_eq => exact length_allBranches parts
  case getElem?_eq => exact getElem?_eq
  case exists_unique => exact fun keeps => exists_unique_keepsAt keeps _
  case precedes => exact fun first second isPosition => lt_of_keepsAt isPosition
  case precedes_of_guards =>
    intro distinct first second larger smaller isLarger isSmaller includes isStrict
    have isFirst := isPosition_of isLarger
    rw [getElem?_eq first isFirst] at isLarger
    rw [getElem?_eq second (isPosition_of isSmaller)] at isSmaller
    cases isLarger
    cases isSmaller
    refine lt_of_keepsAt isFirst (fun index below => keeps_of_subset distinct includes below) ?_
    by_contra none
    push Not at none
    refine isStrict fun point member => ?_
    rcases mem_chosenPoints_iff.1 member with ⟨index, isThere, isKept⟩
    have below : index < branchPointCount parts := by
      rcases List.getElem?_eq_some_iff.1 isThere with ⟨isBelow, -⟩
      rwa [length_branchPoints] at isBelow
    exact mem_chosenPoints_iff.2 ⟨index, isThere, by simpa using none index below isKept⟩
  case guards_getLast? =>
    have isPositive : 0 < Nat.pow 2 (branchPointCount parts) := Nat.pow_pos (by decide)
    have isLast : (allBranches parts).getLast? =
        some (chosenBranch (keepsAt (Nat.pow 2 (branchPointCount parts) - 1)) parts) := by
      rw [List.getLast?_eq_getElem?, length_allBranches]
      exact getElem?_eq _ (Nat.sub_lt isPositive Nat.one_pos)
    have nothing : chosenPoints (keepsAt (Nat.pow 2 (branchPointCount parts) - 1)) parts = [] := by
      rw [List.eq_nil_iff_forall_not_mem]
      intro point member
      rcases mem_chosenPoints_iff.1 member with ⟨index, isThere, isKept⟩
      rcases List.getElem?_eq_some_iff.1 isThere with ⟨isBelow, -⟩
      rw [length_branchPoints] at isBelow
      have isSet : (2 ^ branchPointCount parts - 1).testBit index = true := by
        rw [Nat.testBit_two_pow_sub_one, decide_eq_true isBelow]
      rw [keepsAt] at isKept
      change (!(2 ^ branchPointCount parts - 1).testBit index) = true at isKept
      rw [isSet] at isKept
      cases isKept
    rw [isLast]
    exact congrArg some nothing

/-! ## Too many branch points -/

/--
A refusal can show a limit and the number of variants that it stands for: neither has more digits
than are written, and a negative limit has a floating-point number.
-/
structure IsShowable (limit : Int) : Prop where
  digits : Text.hasExcessDigits limit.natAbs = false
  variants (isNatural : 0 ≤ limit) : Text.hasExcessDigits (Nat.pow 2 limit.toNat) = false
  range (isNegative : limit < 0) : (Decimal.Binary64.ofInt limit).isSpecial = false

/-- The greatest limit whose number of variants can be written. -/
def greatestShownLimit : Nat := 14284

theorem pow_two_le {smaller greater : Nat} (isSmaller : smaller ≤ greater) :
    Nat.pow 2 smaller ≤ Nat.pow 2 greater :=
  Nat.pow_le_pow_right (by decide) isSmaller

theorem hasExcessDigits_pow_iff (exponent : Nat) :
    Text.hasExcessDigits (Nat.pow 2 exponent) = true ↔ greatestShownLimit < exponent := by
  have atLimit : Nat.pow 2 greatestShownLimit < Nat.pow 10 Text.digitLimit := by decide +kernel
  have aboveLimit : Nat.pow 10 Text.digitLimit ≤ Nat.pow 2 (greatestShownLimit + 1) := by
    decide +kernel
  rw [Text.hasExcessDigits, decide_eq_true_iff]
  constructor
  · intro isExcess
    by_contra notAbove
    have isBounded : Nat.pow 2 exponent ≤ Nat.pow 2 greatestShownLimit :=
      pow_two_le (Nat.le_of_not_lt notAbove)
    exact absurd (Nat.le_trans isExcess isBounded) (Nat.not_le.2 atLimit)
  · intro isAbove
    exact Nat.le_trans aboveLimit (pow_two_le isAbove)

/-- A limit that is no negative number can be shown up to a bound. -/
theorem isShowable_natCast_iff (limit : Nat) :
    IsShowable limit ↔ limit ≤ greatestShownLimit := by
  constructor
  · intro showable
    have shown := showable.variants (Int.natCast_nonneg limit)
    rw [Int.toNat_natCast] at shown
    by_contra notBelow
    rw [(hasExcessDigits_pow_iff limit).2 (Nat.lt_of_not_le notBelow)] at shown
    cases shown
  · intro isBelow
    have fits : Text.hasExcessDigits (Nat.pow 2 limit) = false := by
      rw [← Bool.not_eq_true, hasExcessDigits_pow_iff]
      exact Nat.not_lt.2 isBelow
    constructor
    case digits =>
      have isSmaller : limit < Nat.pow 2 limit := Nat.lt_two_pow_self
      rw [Text.hasExcessDigits, decide_eq_false_iff_not] at fits
      rw [Int.natAbs_natCast, Text.hasExcessDigits, decide_eq_false_iff_not]
      omega
    case variants => exact fun _ => by rwa [Int.toNat_natCast]
    case range => exact fun isNegative => absurd isNegative (by omega)

/-- The refusal of a limit names the limit exactly if the limit can be shown. -/
theorem ofExcess_eq_capacity_iff (count : Nat) (limit : Int) :
    ExpansionFault.ofExcess count limit = .capacity count limit ↔ IsShowable limit := by
  unfold ExpansionFault.ofExcess
  constructor
  · intro names
    split at names
    · cases names
    · rename_i digits
      split at names
      · rename_i isNatural
        split at names
        · cases names
        · rename_i variants
          exact ⟨by simpa using digits, fun _ => by simpa using variants, by omega⟩
      · rename_i isNegative
        split at names
        · cases names
        · rename_i range
          exact ⟨by simpa using digits, by omega, fun _ => by simpa using range⟩
  · intro showable
    have digits := Bool.eq_false_iff.1 showable.digits
    rw [if_neg digits]
    split
    · rename_i isNatural
      have variants := Bool.eq_false_iff.1 (showable.variants isNatural)
      rw [if_neg variants]
    · rename_i isNegative
      have range := Bool.eq_false_iff.1 (showable.range (Int.not_le.1 isNegative))
      rw [if_neg range]

/--
A skeleton is expanded within a limit: it is refused for its number of branch points exactly if
this exceeds the limit, and otherwise expanded into all its choices.
-/
structure ExpandsWithin (parts : List Part) (limit : Int) : Prop where
  refused_iff :
      expand parts limit = .error (.capacity (branchPointCount parts) limit) ↔
        limit < branchPointCount parts
  expanded (isWithin : branchPointCount parts ≤ limit) :
      ∃ branches, expand parts limit = .ok branches ∧ Enumerates parts branches

theorem expand_of_le {limit : Int} (isWithin : branchPointCount parts ≤ limit) :
    expand parts limit = .ok (allBranches parts) :=
  if_neg (Int.not_lt.2 isWithin)

theorem expand_of_lt {limit : Int} (isExceeded : limit < branchPointCount parts) :
    expand parts limit = .error (.ofExcess (branchPointCount parts) limit) :=
  if_pos isExceeded

/-- An expansion that refuses a limit shows it. -/
theorem ExpandsWithin.isShowable
    {limit : Int}
    (expands : ExpandsWithin parts limit)
    (isExceeded : limit < branchPointCount parts) :
    IsShowable limit := by
  have refused := expands.refused_iff.2 isExceeded
  rw [expand_of_lt isExceeded] at refused
  exact (ofExcess_eq_capacity_iff _ limit).1 (Except.error.inj refused)

/--
A skeleton is expanded within a limit exactly if it has no more branch points or the limit can be
shown.
-/
theorem expandsWithin_iff (parts : List Part) (limit : Int) :
    ExpandsWithin parts limit ↔ (limit < branchPointCount parts → IsShowable limit) := by
  constructor
  · exact fun expands isExceeded => expands.isShowable isExceeded
  · intro showable
    constructor
    case refused_iff =>
      constructor
      · intro refused
        by_contra notExceeded
        rw [expand_of_le (Int.not_lt.1 notExceeded)] at refused
        cases refused
      · intro isExceeded
        rw [expand_of_lt isExceeded, (ofExcess_eq_capacity_iff _ limit).2 (showable isExceeded)]
    case expanded =>
      exact fun isWithin => ⟨allBranches parts, expand_of_le isWithin, enumerates_allBranches parts⟩

/-- The refusal of a limit of 14285, or of one below all floating-point numbers, fails itself. -/
theorem not_expandsWithin_of_unshown_limit :
    ¬ ExpandsWithin (List.replicate 14286 (.branchPoint ⟨.parameter "a", [.literal "b"]⟩)) 14285 ∧
      ¬ ExpandsWithin [.fragment (.literal "SELECT 1")] (-(Nat.pow 10 309 : Nat)) := by
  constructor
  · intro expands
    have isExceeded :
        14285 < branchPointCount
          (List.replicate 14286 (.branchPoint ⟨.parameter "a", [.literal "b"]⟩)) := by
      rw [branchPointCount, List.countP_replicate]
      decide
    have isBelow : 14285 ≤ greatestShownLimit :=
      (isShowable_natCast_iff 14285).1 (expands.isShowable (Int.ofNat_lt.2 isExceeded))
    revert isBelow
    decide
  · intro expands
    have range := (expands.isShowable (by decide +kernel)).range (by decide +kernel)
    revert range
    decide +kernel

end SqlMapping.Query
