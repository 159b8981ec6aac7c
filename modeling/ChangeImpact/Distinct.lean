/-!
Lists without repetitions: of equal members the first one stays.
-/

set_option autoImplicit false

namespace ChangeImpact

variable {α : Type} [BEq α]

/-- The members of a list that are not yet seen, each once, in order. -/
def fresh (seen : List α) : List α → List α
  | [] => []
  | item :: rest =>
      if seen.contains item then fresh seen rest else item :: fresh (item :: seen) rest

def distinct (items : List α) : List α := fresh [] items

theorem fresh_length_le (seen items : List α) : (fresh seen items).length ≤ items.length := by
  induction items generalizing seen with
  | nil => exact Nat.le_refl 0
  | cons item rest ih =>
      rw [fresh]
      split
      · exact Nat.le_succ_of_le (ih seen)
      · exact Nat.succ_le_succ (ih (item :: seen))

variable [LawfulBEq α]

theorem mem_fresh {seen items : List α} {item : α} :
    item ∈ fresh seen items ↔ item ∈ items ∧ item ∉ seen := by
  induction items generalizing seen with
  | nil => simp only [fresh, List.not_mem_nil, false_and]
  | cons head tail ih =>
      by_cases known : head ∈ seen
      · rw [fresh, if_pos (List.contains_iff_mem.mpr known), ih, List.mem_cons]
        constructor
        · rintro ⟨inTail, unseen⟩
          exact ⟨Or.inr inTail, unseen⟩
        · rintro ⟨atHead | inTail, unseen⟩
          · subst atHead
            exact absurd known unseen
          · exact ⟨inTail, unseen⟩
      · rw [fresh, if_neg (fun found => known (List.contains_iff_mem.mp found)), List.mem_cons, ih,
          List.mem_cons, List.mem_cons]
        by_cases same : item = head
        · subst same
          simp only [true_or, known, not_false_eq_true, and_self]
        · simp only [same, false_or]

theorem mem_distinct {items : List α} {item : α} : item ∈ distinct items ↔ item ∈ items := by
  rw [distinct, mem_fresh]
  simp only [List.not_mem_nil, not_false_eq_true, and_true]

end ChangeImpact
