import Mathlib.Data.List.Forall2

/-!
Computations that may fail: what their success says about their parts.
-/

set_option autoImplicit false

namespace ChangeImpact.Outcome

variable {ε α β : Type}

theorem bind_of_ok {first : Except ε α} {next : α → Except ε β} {value : α} (done : first = .ok value) :
    (first >>= next) = next value := by
  rw [done]
  rfl

theorem ok_of_toOption {outcome : Except ε α} {value : α} (done : outcome.toOption = some value) :
    outcome = .ok value := by
  cases outcome with
  | error fault => cases done
  | ok other =>
      cases done
      rfl

theorem exists_of_isOk {outcome : Except ε α} (done : outcome.isOk = true) : ∃ value, outcome = .ok value := by
  cases outcome with
  | error fault => cases done
  | ok value => exact ⟨value, rfl⟩

/-- A run in which something can be seen of the result has a result. -/
theorem exists_of_seen {σ γ : Type} {run : Except ε α × σ} {seen : α → γ} {value : γ}
    (done : run.1.toOption.map seen = some value) : ∃ result after, run = (.ok result, after) ∧ seen result = value := by
  obtain ⟨outcome, after⟩ := run
  cases outcome with
  | error fault => cases done
  | ok result => exact ⟨result, after, rfl, Option.some.inj done⟩

theorem mapError_eq_ok {ε' : Type} {name : ε → ε'} {outcome : Except ε α} {value : α} :
    outcome.mapError name = .ok value ↔ outcome = .ok value := by
  cases outcome <;> simp [Except.mapError]

/-- A sequence of two computations succeeds only if both do. -/
theorem bind_ok {first : Except ε α} {next : α → Except ε β} {result : β}
    (done : (first >>= next) = .ok result) :
    ∃ value, first = .ok value ∧ next value = .ok result := by
  cases first with
  | error fault => cases done
  | ok value => exact ⟨value, rfl, done⟩

/-- A sequence of two computations fails in the first or in the second. -/
theorem bind_error {first : Except ε α} {next : α → Except ε β} {fault : ε}
    (failed : (first >>= next) = .error fault) :
    first = .error fault ∨ ∃ value, first = .ok value ∧ next value = .error fault := by
  cases first with
  | error other =>
      cases failed
      exact Or.inl rfl
  | ok value => exact Or.inr ⟨value, rfl, failed⟩

/-- A computation over a list succeeds only if it does for every member. -/
theorem mapM_ok {compute : α → Except ε β} {items : List α} {results : List β}
    (done : items.mapM compute = .ok results) :
    List.Forall₂ (fun item result => compute item = .ok result) items results := by
  induction items generalizing results with
  | nil =>
      rw [List.mapM_nil] at done
      cases done
      exact List.Forall₂.nil
  | cons item rest ih =>
      rw [List.mapM_cons] at done
      obtain ⟨result, computed, remaining⟩ := bind_ok done
      obtain ⟨others, restDone, same⟩ := bind_ok remaining
      cases same
      exact List.Forall₂.cons computed (ih restDone)

theorem exists_result {relates : α → β → Prop} {items : List α} {results : List β}
    (related : List.Forall₂ relates items results) {item : α} (member : item ∈ items) :
    ∃ result ∈ results, relates item result := by
  induction related with
  | nil => cases member
  | cons here _ ih =>
      rcases List.mem_cons.mp member with rfl | later
      · exact ⟨_, List.mem_cons_self, here⟩
      · obtain ⟨result, found, holds⟩ := ih later
        exact ⟨result, List.mem_cons_of_mem _ found, holds⟩

theorem exists_item {relates : α → β → Prop} {items : List α} {results : List β}
    (related : List.Forall₂ relates items results) {result : β} (member : result ∈ results) :
    ∃ item ∈ items, relates item result := by
  induction related with
  | nil => cases member
  | cons here _ ih =>
      rcases List.mem_cons.mp member with rfl | later
      · exact ⟨_, List.mem_cons_self, here⟩
      · obtain ⟨item, found, holds⟩ := ih later
        exact ⟨item, List.mem_cons_of_mem _ found, holds⟩

end ChangeImpact.Outcome
