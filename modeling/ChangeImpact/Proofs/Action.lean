/-!
Operations that change a state and may fail. What such an operation does is told by its outcome: the result and the
state afterwards.
-/

set_option autoImplicit false

namespace ChangeImpact.Operation

variable {σ ε α β : Type} {first : ExceptT ε (StateM σ) α} {next : α → ExceptT ε (StateM σ) β}
  {state after : σ}

theorem bind_of_ok {value : α} (done : first state = (.ok value, after)) :
    (first >>= next) state = next value after := by
  change (match first state with
    | (result, later) => (ExceptT.bindCont next result : StateM σ (Except ε β)) later) = _
  rw [done]
  rfl

theorem bind_of_error {fault : ε} (failed : first state = (.error fault, after)) :
    (first >>= next) state = (.error fault, after) := by
  change (match first state with
    | (result, later) => (ExceptT.bindCont next result : StateM σ (Except ε β)) later) = _
  rw [failed]
  rfl

/-- A sequence of two operations goes well only if both do. -/
theorem bind_ok {result : β} (done : (first >>= next) state = (.ok result, after)) :
    ∃ value between, first state = (.ok value, between) ∧ next value between = (.ok result, after) := by
  cases outcome : first state with
  | mk answer between =>
      cases answer with
      | error fault =>
          rw [bind_of_error outcome] at done
          cases done
      | ok value =>
          rw [bind_of_ok outcome] at done
          exact ⟨value, between, rfl, done⟩

/-- A sequence of two operations fails in the first or in the second. -/
theorem bind_error {fault : ε} (failed : (first >>= next) state = (.error fault, after)) :
    first state = (.error fault, after) ∨
      ∃ value between, first state = (.ok value, between) ∧
        next value between = (.error fault, after) := by
  cases outcome : first state with
  | mk answer between =>
      cases answer with
      | error other =>
          rw [bind_of_error outcome] at failed
          cases failed
          exact Or.inl rfl
      | ok value =>
          rw [bind_of_ok outcome] at failed
          exact Or.inr ⟨value, between, rfl, failed⟩

/-- A relation between states that every operation keeps and that can be chained. -/
theorem bind_keeps (relates : σ → σ → Prop)
    (chains : ∀ {one two three}, relates one two → relates two three → relates one three)
    (one : ∀ state, relates state (first state).2)
    (two : ∀ value state, relates state (next value state).2) (state : σ) :
    relates state ((first >>= next) state).2 := by
  have begun := one state
  cases outcome : first state with
  | mk answer between =>
      rw [outcome] at begun
      cases answer with
      | error fault =>
          rw [bind_of_error outcome]
          exact begun
      | ok value =>
          rw [bind_of_ok outcome]
          exact chains begun (two value between)

end ChangeImpact.Operation
