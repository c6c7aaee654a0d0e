import Mathlib.Tactic.SplitIfs
import SqlMapping.Entity.Loading

/-!
# Places on a dotted path

A dotted path names a module and names in it, in as many ways as it has dots.  The names of these
modules all begin with the first part of the path, so that either every one of them can name a
module or none can.

The main statements say that a path which leads to a class leads there from a module on it, and
that following a path fails only as the code of a module does.
-/

namespace SqlMapping

namespace Classes

variable {path : String} {place other : String × List String}

theorem partsOf_ne_nil (path : String) : partsOf path ≠ [] := by
  intro empty
  exact List.splitOn_ne_nil '.' path.toList (List.map_eq_nil_iff.1 empty)

theorem joinParts_partsOf (path : String) : joinParts (partsOf path) = path := by
  have characters : (partsOf path).map String.toList = path.toList.splitOn '.' := by
    rw [partsOf, List.map_map]
    exact (List.map_congr_left fun part _ => String.toList_ofList).trans (List.map_id _)
  rw [joinParts, ← String.toList_inj, String.toList_intercalate, characters]
  exact List.intercalate_splitOn '.'

/-- A place is made of the first parts of the path, and of those that are left. -/
theorem exists_parts_of_mem_placesOf (member : place ∈ placesOf path) :
    ∃ (first : String) (rest : List String),
      place.1 = joinParts (first :: rest) ∧
        place.2 ≠ [] ∧ first :: rest ++ place.2 = partsOf path := by
  rcases List.mem_map.1 member with ⟨last, isLast, rfl⟩
  have isInside := List.mem_range.1 (List.mem_reverse.1 isLast)
  cases parts : partsOf path with
  | nil => exact absurd parts (partsOf_ne_nil path)
  | cons first rest =>
      rw [parts, List.length_cons] at isInside
      refine ⟨first, rest.take last, rfl, ?_, ?_⟩
      · apply List.ne_nil_of_length_pos
        dsimp only
        rw [List.length_drop, List.length_cons]
        omega
      · exact List.take_append_drop (last + 1) (first :: rest)

/-- A path consists of the name of the module and of the names in it, for each of its places. -/
theorem eq_of_mem_placesOf (member : place ∈ placesOf path) :
    path = place.1 ++ "." ++ joinParts place.2 := by
  rcases exists_parts_of_mem_placesOf member with ⟨first, rest, isModule, areNames, parts⟩
  rw [isModule, ← joinParts_partsOf path, ← parts]
  exact String.intercalate_append_of_ne_nil (List.cons_ne_nil first rest) areNames

/-- No part of a path begins with the mark between the parts. -/
theorem head?_ne_dot_of_partsOf
    {root : String}
    {rest : List String}
    (parts : partsOf path = root :: rest) :
    root.toList.head? ≠ some '.' := by
  have split : (path.toList.splitOn '.').map String.ofList = root :: rest := parts
  rcases List.map_eq_cons_iff.1 split with ⟨first, others, isSplit, rfl, -⟩
  rw [String.toList_ofList]
  cases characters : path.toList with
  | nil =>
      rw [characters, List.splitOn_nil] at isSplit
      cases isSplit
      exact nofun
  | cons character remaining =>
      rw [characters, List.splitOn_cons_eq_if_modifyHead] at isSplit
      split_ifs at isSplit with isDot
      · cases isSplit
        exact nofun
      · cases pieces : List.splitOn '.' remaining with
        | nil => exact absurd pieces (List.splitOn_ne_nil _ _)
        | cons piece more =>
            rw [pieces, List.modifyHead_cons] at isSplit
            cases isSplit
            intro same
            cases same
            exact isDot BEq.rfl

/-- What a dotted path begins with, if its first part is not empty, and if it is. -/
theorem exists_toList_joinParts (first : String) (rest : List String) :
    ∃ more,
      (joinParts (first :: rest)).toList = first.toList ++ more ∧
        (more = [] ∨ more.head? = some '.') := by
  rw [joinParts, String.toList_intercalate, List.map_cons]
  cases rest with
  | nil =>
      refine ⟨[], ?_, .inl rfl⟩
      rw [List.map_nil, List.intercalate_singleton, List.append_nil]
  | cons next others =>
      rw [List.map_cons, List.intercalate_cons_cons, List.append_assoc]
      exact ⟨_, rfl, .inr rfl⟩

end Classes

namespace Loader

open Classes

variable {loader : Loader} {workspace : Workspace} {classes : Classes} {path : String}
  {place other : String × List String}

theorem nameFault?_eq_none_iff {name : String} :
    nameFault? name = none ↔ name.toList ≠ [] ∧ name.toList.head? ≠ some '.' := by
  rw [ne_eq, String.toList_eq_nil_iff, ← String.isEmpty_iff, nameFault?]
  split_ifs with isEmpty isRelative
  · exact ⟨nofun, fun named => absurd isEmpty named.1⟩
  · exact ⟨nofun, fun named => absurd isRelative named.2⟩
  · exact ⟨fun _ => ⟨isEmpty, isRelative⟩, fun _ => rfl⟩

/-- Whether a module can have the name of a place is told by the first part of the path. -/
theorem nameFault?_eq_none_iff_of_mem_placesOf (member : place ∈ placesOf path) :
    nameFault? place.1 = none ↔ (partsOf path).head? ≠ some "" := by
  rcases exists_parts_of_mem_placesOf member with ⟨first, rest, isModule, -, parts⟩
  have noDot := head?_ne_dot_of_partsOf parts.symm
  rcases exists_toList_joinParts first rest with ⟨more, characters, isMore⟩
  rw [← parts, isModule, nameFault?_eq_none_iff, characters, List.cons_append, List.head?_cons]
  cases begins : first.toList with
  | nil =>
      rw [String.toList_eq_nil_iff.1 begins, List.nil_append]
      refine ⟨fun named => ?_, fun named => absurd rfl named⟩
      exact absurd isMore (not_or.2 named)
  | cons character others =>
      rw [begins, List.head?_cons] at noDot
      refine ⟨fun _ isEmpty => ?_, fun _ => ⟨nofun, noDot⟩⟩
      rw [Option.some.inj isEmpty] at begins
      cases begins

/-- If a module can have the name of one place on a path, modules can have those of all others. -/
theorem nameFault?_eq_none_of_mem_placesOf
    (member : place ∈ placesOf path)
    (isUsable : nameFault? place.1 = none)
    (otherMember : other ∈ placesOf path) :
    nameFault? other.1 = none :=
  (nameFault?_eq_none_iff_of_mem_placesOf otherMember).2
    ((nameFault?_eq_none_iff_of_mem_placesOf member).1 isUsable)

/-- A path that leads to a class through a loaded module can have modules at all its places. -/
theorem areUsable_of_lookupEntity
    {found : PathTarget}
    (areNamed : ∀ name, classes.isLoaded name = true → nameFault? name = none)
    (leads : classes.lookupEntity path = some found) :
    ∀ place ∈ placesOf path, nameFault? place.1 = none := by
  rcases Option.bind_eq_some_iff.1 leads with ⟨place, isPlace, -⟩
  have isLoaded := List.find?_some isPlace
  have isUsable := areNamed place.1 isLoaded
  exact fun other => nameFault?_eq_none_of_mem_placesOf (List.mem_of_find?_eq_some isPlace) isUsable

/-- A search that leads to a class leads there from a module of its places. -/
theorem exists_walk_of_searchPlaces
    {places : List (String × List String)}
    {found : PathTarget}
    (leads : (loader.searchPlaces workspace classes places).outcome = .ok (some found)) :
    ∃ place ∈ places,
      (loader.searchPlaces workspace classes places).classes.walk (.module place.1) place.2 =
        some found := by
  induction places generalizing classes with
  | nil => cases leads
  | cons place rest inductionHypothesis =>
      rw [searchPlaces] at leads ⊢
      dsimp only at leads ⊢
      split at leads
      · exact ⟨place, List.mem_cons_self, Except.ok.inj leads⟩
      · split_ifs at leads with isAbsent
        · rw [if_pos isAbsent]
          rcases inductionHypothesis leads with ⟨other, member, walked⟩
          exact ⟨other, List.mem_cons_of_mem place member, walked⟩

/-- A path that leads to a class leads there from a module on it. -/
theorem exists_walk_of_importEntity
    {found : PathTarget}
    (leads : (loader.importEntity workspace classes path).outcome = .ok (some found)) :
    ∃ place ∈ placesOf path,
      (loader.importEntity workspace classes path).classes.walk (.module place.1) place.2 =
        some found := by
  rw [importEntity] at leads ⊢
  cases looked : classes.lookupEntity path with
  | none =>
      rw [looked] at leads
      exact exists_walk_of_searchPlaces leads
  | some other =>
      rw [looked] at leads
      cases leads
      rcases Option.bind_eq_some_iff.1 looked with ⟨place, isPlace, walked⟩
      exact ⟨place, List.mem_of_find?_eq_some isPlace, walked⟩

/-- A search fails as the code of a module does that has to be loaded for it. -/
theorem exists_load_of_searchPlaces
    {places : List (String × List String)}
    {fault : LoadFault}
    (areUsable : ∀ place ∈ places, nameFault? place.1 = none)
    (fails : (loader.searchPlaces workspace classes places).outcome = .error fault) :
    ∃ (before : Classes) (place : String × List String),
      place ∈ places ∧ (loader.load workspace before place.1).outcome = .error fault ∧
        fault.isAbsenceOf place.1 = false := by
  induction places generalizing classes with
  | nil => cases fails
  | cons place rest inductionHypothesis =>
      rw [searchPlaces] at fails
      dsimp only at fails
      split at fails
      · cases fails
      · rename_i other isOther
        split_ifs at fails with isAbsent
        · rcases inductionHypothesis
              (fun next member => areUsable next (List.mem_cons_of_mem place member)) fails with
            ⟨before, next, member, loads⟩
          exact ⟨before, next, List.mem_cons_of_mem place member, loads⟩
        · cases fails
          rw [importModule, areUsable place List.mem_cons_self] at isOther
          dsimp only at isOther
          split_ifs at isOther
          exact
            ⟨classes, place, List.mem_cons_self, isOther, Bool.eq_false_iff.2 isAbsent⟩

/-- Where modules can have the names on a path, following it fails only as the code of one does. -/
theorem exists_load_of_importEntity
    {fault : LoadFault}
    (areUsable : ∀ place ∈ placesOf path, nameFault? place.1 = none)
    (fails : (loader.importEntity workspace classes path).outcome = .error fault) :
    ∃ (before : Classes) (place : String × List String),
      place ∈ placesOf path ∧ (loader.load workspace before place.1).outcome = .error fault ∧
        fault.isAbsenceOf place.1 = false := by
  rw [importEntity] at fails
  cases looked : classes.lookupEntity path with
  | none =>
      rw [looked] at fails
      exact exists_load_of_searchPlaces areUsable fails
  | some found =>
      rw [looked] at fails
      cases fails

end Loader

end SqlMapping
