import Mathlib.Data.List.Forall2

/-!
# Outcomes of sequences

Several outcomes in a row succeed together, or fail as the first of them that fails.

The main statements say when a whole list of outcomes succeeds, and that its failure is the
failure of one of its members.
-/

namespace SqlMapping.Outcome

variable {ε α β γ : Type}

@[simp]
theorem ok_bind (value : α) (next : α → Except ε β) :
    (Except.ok value >>= next) = next value := rfl

@[simp]
theorem error_bind (error : ε) (next : α → Except ε β) :
    ((Except.error error : Except ε α) >>= next) = .error error := rfl

@[simp]
theorem map_ok (function : α → β) (value : α) :
    (Except.ok value : Except ε α).map function = .ok (function value) := rfl

@[simp]
theorem map_error (function : α → β) (error : ε) :
    (Except.error error : Except ε α).map function = .error error := rfl

@[simp]
theorem pure_eq_ok (value : α) : (pure value : Except ε α) = .ok value := rfl

/-- A failure has no result. -/
theorem not_exists_error_eq_ok
    {error : ε} :
    ¬∃ value : α, (Except.error error : Except ε α) = .ok value := by
  rintro ⟨_, impossible⟩
  cases impossible

theorem exists_eq_ok_of_isOk
    {outcome : Except ε α}
    (isOk : outcome.isOk = true) :
    ∃ value, outcome = .ok value := by
  cases outcome with
  | error error => cases isOk
  | ok value => exact ⟨value, rfl⟩

/-- The result of an outcome that succeeds. -/
def value (outcome : Except ε α) (isOk : outcome.isOk = true) : α :=
  match outcome, isOk with
  | .ok result, _ => result

theorem eq_ok_value (outcome : Except ε α) (isOk : outcome.isOk = true) :
    outcome = .ok (value outcome isOk) := by
  cases outcome with
  | error error => cases isOk
  | ok result => rfl

/-- A sequence of two outcomes succeeds when both do. -/
theorem bind_eq_ok_iff
    {first : Except ε α}
    {next : α → Except ε β}
    {result : β} :
    first >>= next = .ok result ↔ ∃ value, first = .ok value ∧ next value = .ok result := by
  cases first with
  | error error => simp
  | ok value => simp

/-- A sequence of two outcomes fails when the first does, or the second after it. -/
theorem bind_eq_error_iff
    {first : Except ε α}
    {next : α → Except ε β}
    {error : ε} :
    first >>= next = .error error ↔
      first = .error error ∨ ∃ value, first = .ok value ∧ next value = .error error := by
  cases first with
  | error other => simp
  | ok value => simp

/-- What is made of a result is made if there is one. -/
theorem map_eq_ok_iff
    {outcome : Except ε α}
    {function : α → β}
    {result : β} :
    outcome.map function = .ok result ↔ ∃ value, outcome = .ok value ∧ function value = result := by
  cases outcome with
  | error error => simp
  | ok value => simp

theorem map_eq_error_iff
    {outcome : Except ε α}
    {function : α → β}
    {error : ε} :
    outcome.map function = .error error ↔ outcome = .error error := by
  cases outcome with
  | error other => simp
  | ok value => simp

/-- Another wording of a failure does not change what succeeds. -/
theorem mapError_eq_ok_iff
    {δ : Type}
    {outcome : Except ε α}
    {function : ε → δ}
    {value : α} :
    outcome.mapError function = .ok value ↔ outcome = .ok value := by
  cases outcome <;> simp [Except.mapError]

/-- Only failures are worded anew. -/
theorem mapError_eq_error_iff
    {δ : Type}
    {outcome : Except ε α}
    {function : ε → δ}
    {error : δ} :
    outcome.mapError function = .error error ↔
      ∃ cause, outcome = .error cause ∧ function cause = error := by
  cases outcome <;> simp [Except.mapError]

/-- A list of outcomes succeeds when every member does. -/
theorem mapM_eq_ok_iff
    {function : α → Except ε β}
    {items : List α}
    {results : List β} :
    items.mapM function = .ok results ↔
      List.Forall₂ (fun item result => function item = .ok result) items results := by
  induction items generalizing results with
  | nil =>
      rw [List.mapM_nil, pure_eq_ok, List.forall₂_nil_left_iff, Except.ok.injEq, eq_comm]
  | cons item rest inductionHypothesis =>
      rw [List.mapM_cons, bind_eq_ok_iff, List.forall₂_cons_left_iff]
      constructor
      · rintro ⟨value, evaluated, remaining⟩
        rcases bind_eq_ok_iff.1 remaining with ⟨values, restEvaluated, equal⟩
        refine ⟨value, values, evaluated, inductionHypothesis.1 restEvaluated, ?_⟩
        exact (Except.ok.inj equal).symm
      · rintro ⟨value, values, evaluated, restEvaluated, rfl⟩
        exact
          ⟨value, evaluated,
            bind_eq_ok_iff.2 ⟨values, inductionHypothesis.2 restEvaluated, rfl⟩⟩

/-- Every member of a list of outcomes that succeeds has one of the results. -/
theorem exists_mem_of_mapM_eq_ok
    {function : α → Except ε β}
    {items : List α}
    {results : List β}
    (succeeded : items.mapM function = .ok results)
    {item : α}
    (member : item ∈ items) :
    ∃ result ∈ results, function item = .ok result := by
  rw [mapM_eq_ok_iff] at succeeded
  induction succeeded with
  | nil => cases member
  | @cons first result rest others here _ inductionHypothesis =>
      rcases List.mem_cons.1 member with rfl | inRest
      · exact ⟨result, List.mem_cons_self, here⟩
      · rcases inductionHypothesis inRest with ⟨other, isOther, evaluated⟩
        exact ⟨other, List.mem_cons_of_mem result isOther, evaluated⟩

/-- The failure of a list of outcomes is the failure of a member. -/
theorem exists_mem_of_mapM_eq_error
    {function : α → Except ε β}
    {items : List α}
    {error : ε}
    (failed : items.mapM function = .error error) :
    ∃ item ∈ items, function item = .error error := by
  induction items with
  | nil => simp at failed
  | cons item rest inductionHypothesis =>
      rw [List.mapM_cons] at failed
      cases evaluated : function item with
      | error cause =>
          rw [evaluated, error_bind, Except.error.injEq] at failed
          subst cause
          exact ⟨item, List.mem_cons_self, evaluated⟩
      | ok value =>
          rw [evaluated, ok_bind] at failed
          cases restEvaluated : rest.mapM function with
          | ok values => simp [restEvaluated] at failed
          | error cause =>
              rw [restEvaluated, error_bind, Except.error.injEq] at failed
              subst cause
              rcases inductionHypothesis restEvaluated with ⟨member, inRest, memberFailed⟩
              exact ⟨member, List.mem_cons_of_mem item inRest, memberFailed⟩

/-- A list of outcomes that can fail in one way only fails if one of its members does. -/
theorem mapM_eq_error_iff
    {function : α → Except ε β}
    {items : List α}
    {error : ε}
    (alike :
      ∀ {first second : α} {firstError secondError : ε},
        function first = .error firstError → function second = .error secondError →
          firstError = secondError) :
    items.mapM function = .error error ↔ ∃ item ∈ items, function item = .error error := by
  constructor
  · exact exists_mem_of_mapM_eq_error
  · rintro ⟨item, isItem, failed⟩
    cases evaluated : items.mapM function with
    | ok results =>
        rcases exists_mem_of_mapM_eq_ok evaluated isItem with ⟨result, -, succeeded⟩
        rw [failed] at succeeded
        cases succeeded
    | error other =>
        rcases exists_mem_of_mapM_eq_error evaluated with ⟨member, -, memberFailed⟩
        rw [alike memberFailed failed]

end SqlMapping.Outcome
