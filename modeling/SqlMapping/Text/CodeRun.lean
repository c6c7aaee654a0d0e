/-!
# Runs of code points

A run holds equally spaced code points, so that every second one of a row can be listed in one
entry; a character class is a list of runs.
-/

namespace SqlMapping.Text

/-- Equally spaced code points. -/
structure CodeRun where
  /-- The first code point of the run. -/
  first : Nat
  /-- The last code point of the run. -/
  last : Nat
  /-- The distance between neighbours of the run. -/
  stride : Nat

/-- Whether a code point belongs to a run. -/
def CodeRun.holds (run : CodeRun) (code : Nat) : Bool :=
  run.first ≤ code && code ≤ run.last && (code - run.first) % run.stride == 0

/-- Whether a character belongs to one of the runs. -/
def inRuns (runs : List CodeRun) (character : Char) : Bool :=
  runs.any fun run => run.holds character.toNat

@[simp]
theorem inRuns_nil (character : Char) : inRuns [] character = false := rfl

/-- A list of runs holds what one of its two parts holds. -/
@[simp]
theorem inRuns_append
    (first second : List CodeRun)
    (character : Char) :
    inRuns (first ++ second) character
      = (inRuns first character || inRuns second character) := by
  simp [inRuns]

end SqlMapping.Text
