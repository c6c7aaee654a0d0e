import Mathlib.Data.List.Dedup
import Mathlib.Data.List.Nodup
import SqlMapping.Entries

/-!
# Entries that are put

Values that are put under new names stand behind those that were there, and values that are put
under names of their own are found under them.

The main statements are about several values that are put one after the other.
-/

namespace SqlMapping.Entries

variable {α : Type} {entries additions : List (String × α)} {name : String} {value : α}

/-- A value under a new name is put at the end. -/
theorem put_of_not_mem
    (absent : name ∉ entries.map Prod.fst)
    (value : α) :
    put entries name value = entries ++ [(name, value)] := by
  induction entries with
  | nil => rfl
  | cons entry rest inductionHypothesis =>
      rcases entry with ⟨first, held⟩
      rw [List.map_cons, List.mem_cons, not_or] at absent
      rw [put, if_neg fun same => absent.1 same.symm, inductionHypothesis absent.2,
        List.cons_append]

/-- A value that a name has already changes nothing when it is put under the name. -/
theorem put_of_lookup
    (found : entries.lookup name = some value) :
    put entries name value = entries := by
  induction entries with
  | nil => cases found
  | cons entry rest inductionHypothesis =>
      rcases entry with ⟨first, held⟩
      by_cases same : first = name
      · subst same
        rw [List.lookup_cons_self] at found
        rw [put, if_pos rfl, Option.some.inj found]
      · have unequal : (name == first) = false := beq_false_of_ne fun equal => same equal.symm
        rw [List.lookup_cons, unequal] at found
        rw [put, if_neg same, inductionHypothesis found]

/-- Entries are known from their names, if these differ, and from what is found under each. -/
theorem eq_map_of_lookup
    {β : Type}
    {items : List β}
    {nameOf : β → String}
    {valueOf : β → α}
    (names : entries.map Prod.fst = items.map nameOf)
    (distinct : (items.map nameOf).Nodup)
    (found : ∀ item ∈ items, entries.lookup (nameOf item) = some (valueOf item)) :
    entries = items.map fun item => (nameOf item, valueOf item) := by
  induction items generalizing entries with
  | nil => exact List.map_eq_nil_iff.1 names
  | cons item rest inductionHypothesis =>
      cases entries with
      | nil => cases names
      | cons entry others =>
          rcases entry with ⟨name, value⟩
          rw [List.map_cons, List.map_cons, List.cons.injEq] at names
          rcases names with ⟨same, restNames⟩
          rw [List.map_cons, List.nodup_cons] at distinct
          have here := found item List.mem_cons_self
          dsimp only at same
          subst same
          rw [List.lookup_cons_self] at here
          have restFound :
              ∀ other ∈ rest, others.lookup (nameOf other) = some (valueOf other) := by
            intro other member
            have different : (nameOf other == nameOf item) = false := by
              rw [beq_eq_false_iff_ne]
              intro equal
              apply distinct.1
              rw [← equal]
              exact List.mem_map_of_mem member
            have foundOther := found other (List.mem_cons_of_mem item member)
            rwa [List.lookup_cons, different] at foundOther
          rw [List.map_cons, ← inductionHypothesis restNames distinct.2 restFound,
            Option.some.inj here]

/-- Values under new names that differ are put at the end, in their order. -/
theorem putAll_of_fresh
    (distinct : (additions.map Prod.fst).Nodup)
    (fresh : ∀ name ∈ additions.map Prod.fst, name ∉ entries.map Prod.fst) :
    putAll entries additions = entries ++ additions := by
  induction additions generalizing entries with
  | nil => exact (List.append_nil entries).symm
  | cons addition rest inductionHypothesis =>
      rcases addition with ⟨name, value⟩
      rw [List.map_cons, List.nodup_cons] at distinct
      have added := put_of_not_mem (fresh name List.mem_cons_self) value
      have restFresh :
          ∀ other ∈ rest.map Prod.fst, other ∉ (entries ++ [(name, value)]).map Prod.fst := by
        intro other isRest isEntry
        rw [List.map_append, List.mem_append] at isEntry
        rcases isEntry with isOld | isNew
        · exact fresh other (List.mem_cons_of_mem name isRest) isOld
        · rw [List.mem_singleton.1 isNew] at isRest
          exact distinct.1 isRest
      show putAll (put entries name value) rest = entries ++ (name, value) :: rest
      rw [added, inductionHypothesis distinct.2 restFresh, List.append_assoc]
      rfl

/-- Values that are put under other names leave a name with what it had. -/
theorem lookup_putAll_of_not_mem
    (absent : name ∉ additions.map Prod.fst) :
    (putAll entries additions).lookup name = entries.lookup name := by
  induction additions generalizing entries with
  | nil => rfl
  | cons addition rest inductionHypothesis =>
      rcases addition with ⟨first, held⟩
      rw [List.map_cons, List.mem_cons, not_or] at absent
      show (putAll (put entries first held) rest).lookup name = entries.lookup name
      rw [inductionHypothesis absent.2, lookup_put_of_ne absent.1]

/-- Values that are put under names that differ are found under them. -/
theorem lookup_putAll_of_mem
    (distinct : (additions.map Prod.fst).Nodup)
    (member : (name, value) ∈ additions) :
    (putAll entries additions).lookup name = some value := by
  induction additions generalizing entries with
  | nil => cases member
  | cons addition rest inductionHypothesis =>
      rcases addition with ⟨first, held⟩
      rw [List.map_cons, List.nodup_cons] at distinct
      show (putAll (put entries first held) rest).lookup name = some value
      rcases List.mem_cons.1 member with isFirst | isRest
      · cases isFirst
        rw [lookup_putAll_of_not_mem distinct.1, lookup_put_self]
      · exact inductionHypothesis distinct.2 isRest

/-- The value that was put last is found under its name. -/
theorem lookup_putAll_append_singleton :
    (putAll entries (additions ++ [(name, value)])).lookup name = some value := by
  rw [putAll, List.foldl_append]
  exact lookup_put_self _ name value

/-- Names that differ still differ after values were put. -/
theorem nodup_putAll
    (distinct : (entries.map Prod.fst).Nodup) :
    ((putAll entries additions).map Prod.fst).Nodup := by
  induction additions generalizing entries with
  | nil => exact distinct
  | cons addition rest inductionHypothesis =>
      rcases addition with ⟨name, value⟩
      have stillDistinct : ((put entries name value).map Prod.fst).Nodup := by
        by_cases present : name ∈ entries.map Prod.fst
        · rw [map_fst_put_of_mem present]
          exact distinct
        · rw [put_of_not_mem present, List.map_append]
          apply List.nodup_append.2
          refine ⟨distinct, List.nodup_singleton name, ?_⟩
          rintro other member _ isName rfl
          rw [List.mem_singleton.1 isName] at member
          exact present member
      exact inductionHypothesis stillDistinct

/-- The names under which something is found after values were put. -/
theorem isSome_lookup_putAll_iff :
    ((putAll entries additions).lookup name).isSome = true ↔
      name ∈ additions.map Prod.fst ∨ (entries.lookup name).isSome = true := by
  induction additions generalizing entries with
  | nil => simp [putAll]
  | cons addition rest inductionHypothesis =>
      rcases addition with ⟨first, held⟩
      show ((putAll (put entries first held) rest).lookup name).isSome = true ↔ _
      rw [inductionHypothesis, List.map_cons, List.mem_cons]
      by_cases same : name = first
      · rw [same, lookup_put_self]
        simp
      · rw [lookup_put_of_ne same]
        simp [same]

/-- Whatever is there after values were put was there before or is one of them. -/
theorem mem_of_mem_put
    {entry : String × α}
    (member : entry ∈ put entries name value) :
    entry ∈ entries ∨ entry = (name, value) := by
  induction entries with
  | nil => exact .inr (List.mem_singleton.1 member)
  | cons first rest inductionHypothesis =>
      rcases first with ⟨other, held⟩
      rw [put] at member
      split at member
      · rcases List.mem_cons.1 member with isNew | isRest
        · exact .inr isNew
        · exact .inl (List.mem_cons_of_mem _ isRest)
      · rcases List.mem_cons.1 member with rfl | isRest
        · exact .inl List.mem_cons_self
        · rcases inductionHypothesis isRest with isOld | isNew
          · exact .inl (List.mem_cons_of_mem _ isOld)
          · exact .inr isNew

theorem mem_of_mem_putAll
    {entry : String × α}
    (member : entry ∈ putAll entries additions) :
    entry ∈ entries ∨ entry ∈ additions := by
  induction additions generalizing entries with
  | nil => exact .inl member
  | cons addition rest inductionHypothesis =>
      rcases addition with ⟨name, value⟩
      rcases inductionHypothesis member with isPut | isRest
      · rcases mem_of_mem_put isPut with isOld | rfl
        · exact .inl isOld
        · exact .inr List.mem_cons_self
      · exact .inr (List.mem_cons_of_mem _ isRest)

theorem mem_of_lookup (found : entries.lookup name = some value) : (name, value) ∈ entries := by
  rcases List.lookup_eq_some_iff.1 found with ⟨before, after, split, -⟩
  rw [split]
  exact List.mem_append_right before List.mem_cons_self

theorem mem_map_fst_iff : name ∈ entries.map Prod.fst ↔ (entries.lookup name).isSome = true := by
  rw [List.lookup_isSome_iff, List.mem_map]
  constructor
  · rintro ⟨entry, member, rfl⟩
    exact ⟨entry, member, beq_self_eq_true entry.1⟩
  · rintro ⟨entry, member, same⟩
    exact ⟨entry, member, (beq_iff_eq.1 same).symm⟩

/-- Values that are put under names stand under each of these names once. -/
theorem perm_map_fst_putAll (additions : List (String × α)) :
    List.Perm ((putAll [] additions).map Prod.fst) (additions.map Prod.fst).dedup := by
  have distinct : ((putAll [] additions).map Prod.fst).Nodup := nodup_putAll List.nodup_nil
  rw [List.perm_ext_iff_of_nodup distinct (List.nodup_dedup _)]
  intro name
  rw [mem_map_fst_iff, isSome_lookup_putAll_iff, List.mem_dedup]
  simp

end SqlMapping.Entries
