/-!
# Named entries

Entries are values under names, in order of insertion.  Putting a value under a name that is
there already keeps the place of the name and replaces its value.
-/

namespace SqlMapping.Entries

variable {α : Type}

/-- Put a value under a name. -/
def put (entries : List (String × α)) (name : String) (value : α) : List (String × α) :=
  match entries with
  | [] => [(name, value)]
  | (other, held) :: rest =>
    if other = name then (name, value) :: rest else (other, held) :: put rest name value

/-- Put several values, one after the other. -/
def putAll (entries additions : List (String × α)) : List (String × α) :=
  additions.foldl (fun entries (name, value) => put entries name value) entries

/-- What was put last under a name is found under it. -/
@[simp]
theorem lookup_put_self (entries : List (String × α)) (name : String) (value : α) :
    (put entries name value).lookup name = some value := by
  induction entries with
  | nil => simp [put]
  | cons entry rest inductionHypothesis =>
      obtain ⟨other, held⟩ := entry
      by_cases equality : other = name
      · simp [put, equality]
      · have unequal : (name == other) = false := by simpa using fun same => equality same.symm
        simp [put, equality, List.lookup_cons, unequal, inductionHypothesis]

/-- Putting a value under a name changes nothing under another name. -/
theorem lookup_put_of_ne
    {entries : List (String × α)}
    {name other : String}
    {value : α}
    (different : other ≠ name) :
    (put entries name value).lookup other = entries.lookup other := by
  induction entries with
  | nil =>
      have unequal : (other == name) = false := by simpa using different
      simp [put, List.lookup_cons, unequal]
  | cons entry rest inductionHypothesis =>
      obtain ⟨first, held⟩ := entry
      by_cases equality : first = name
      · have unequal : (other == name) = false := by simpa using different
        simp [put, equality, List.lookup_cons, unequal]
      · simp [put, equality, List.lookup_cons, inductionHypothesis]

/-- Putting a value under a name that is there already keeps the names in order. -/
theorem map_fst_put_of_mem
    {entries : List (String × α)}
    {name : String}
    {value : α}
    (present : name ∈ entries.map Prod.fst) :
    (put entries name value).map Prod.fst = entries.map Prod.fst := by
  induction entries with
  | nil => simp at present
  | cons entry rest inductionHypothesis =>
      obtain ⟨first, held⟩ := entry
      by_cases equality : first = name
      · simp [put, equality]
      · have inRest : name ∈ rest.map Prod.fst := by
          have different : ¬ name = first := fun same => equality same.symm
          simpa [different] using present
        simp [put, equality, inductionHypothesis inRest]

end SqlMapping.Entries
