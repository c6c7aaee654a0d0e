/-!
# Ranges of code points

A character class is a list of inclusive code-point ranges in rising order, so that a lookup
stops at the first range above the code point.
-/

namespace SqlMapping.Text

/-- Whether a code point lies in one of the rising, inclusive ranges. -/
def inRanges : List (Nat × Nat) → Nat → Bool
  | [], _ => false
  | (first, last) :: rest, code =>
    if code < first then false
    else if code ≤ last then true
    else inRanges rest code

@[simp]
theorem inRanges_nil (code : Nat) : inRanges [] code = false := rfl

/-- A code point found by the lookup lies between the ends of a listed range. -/
theorem exists_range_of_inRanges
    {ranges : List (Nat × Nat)}
    {code : Nat}
    (found : inRanges ranges code = true) :
    ∃ range ∈ ranges, range.1 ≤ code ∧ code ≤ range.2 := by
  induction ranges with
  | nil => simp at found
  | cons range rest inductionHypothesis =>
      obtain ⟨first, last⟩ := range
      unfold inRanges at found
      split at found
      · cases found
      · rename_i notBelow
        split at found
        · rename_i notAbove
          exact ⟨(first, last), by simp, by simpa using notBelow, notAbove⟩
        · obtain ⟨member, inRest, bounds⟩ := inductionHypothesis found
          exact ⟨member, List.mem_cons_of_mem _ inRest, bounds⟩

end SqlMapping.Text
