import ChangeImpact.Distinct

/-!
What stays of a list when its repetitions go: exactly the members that were not seen before, each of them
once. A list in the order of keys that do not repeat rises from each member to the next.
-/

set_option autoImplicit false

namespace ChangeImpact

variable {α : Type} [BEq α] [LawfulBEq α]

theorem fresh_nodup (seen items : List α) : (fresh seen items).Nodup := by
  induction items generalizing seen with
  | nil => exact List.nodup_nil
  | cons head tail ih =>
      rw [fresh]
      split
      · exact ih seen
      · rw [List.nodup_cons]
        constructor
        · intro again
          exact (mem_fresh.mp again).2 List.mem_cons_self
        · exact ih (head :: seen)

/-- What is fresh depends on the members that were seen, not on their order. -/
theorem fresh_congr {left right : List α} (same : ∀ item, item ∈ left ↔ item ∈ right)
    (items : List α) : fresh left items = fresh right items := by
  induction items generalizing left right with
  | nil => rfl
  | cons head tail ih =>
      have alike : left.contains head = right.contains head := by
        rw [Bool.eq_iff_iff, List.contains_iff_mem, List.contains_iff_mem, same]
      have grown : ∀ item, item ∈ head :: left ↔ item ∈ head :: right := by
        intro item
        rw [List.mem_cons, List.mem_cons, same]
      rw [fresh, fresh, alike, ih same, ih grown]

theorem fresh_append (seen left right : List α) :
    fresh seen (left ++ right) = fresh seen left ++ fresh (seen ++ fresh seen left) right := by
  induction left generalizing seen with
  | nil => rw [List.nil_append, fresh, List.nil_append, List.append_nil]
  | cons head tail ih =>
      rw [List.cons_append, fresh, fresh]
      split
      · exact ih seen
      · rw [ih, List.cons_append]
        congr 2
        apply fresh_congr
        intro item
        simp only [List.mem_append, List.mem_cons]
        grind

theorem distinct_nodup (items : List α) : (distinct items).Nodup := fresh_nodup [] items

/-- What is fresh stands in the order of the first occurrences. -/
theorem fresh_order (seen items : List α) :
    (fresh seen items).Pairwise fun earlier later => items.idxOf earlier < items.idxOf later := by
  induction items generalizing seen with
  | nil => exact List.Pairwise.nil
  | cons head tail ih =>
      -- What comes later is not the head, so the head only moves its first occurrence by one.
      have shifted : ∀ known, head ∈ known → (fresh known tail).Pairwise
          fun earlier later => (head :: tail).idxOf earlier < (head :: tail).idxOf later := by
        intro known isKnown
        have other : ∀ item ∈ fresh known tail, (head :: tail).idxOf item = tail.idxOf item + 1 := by
          intro item member
          have different : head ≠ item := fun same => (mem_fresh.mp member).2 (same ▸ isKnown)
          rw [List.idxOf_cons, beq_false_of_ne different, cond_false]
        refine (ih known).imp_of_mem ?_
        intro earlier later inFront behind before
        rw [other earlier inFront, other later behind]
        omega
      rw [fresh]
      split
      · rename_i known
        exact shifted seen (List.contains_iff_mem.mp known)
      · refine List.Pairwise.cons ?_ (shifted (head :: seen) List.mem_cons_self)
        intro later member
        have different : head ≠ later := fun same =>
          (mem_fresh.mp member).2 (same ▸ List.mem_cons_self)
        rw [List.idxOf_cons_self, List.idxOf_cons, beq_false_of_ne different, cond_false]
        omega

theorem distinct_order (items : List α) :
    (distinct items).Pairwise fun earlier later => items.idxOf earlier < items.idxOf later :=
  fresh_order [] items

/-- Keys that do not repeat rise once the items are in their order. -/
theorem mergeSort_ascending {β : Type} {key : β → String} {items : List β} (single : (items.map key).Nodup) :
    (items.mergeSort fun left right => decide (key left ≤ key right)).Pairwise
      fun left right => key left < key right := by
  have sorted : (items.mergeSort fun left right => decide (key left ≤ key right)).Pairwise
      fun left right => decide (key left ≤ key right) = true := by
    apply List.pairwise_mergeSort
    · intro first second third earlier later
      simp only [decide_eq_true_eq] at earlier later ⊢
      exact String.le_trans earlier later
    · intro first second
      simp only [Bool.or_eq_true, decide_eq_true_eq]
      exact String.le_total (key first) (key second)
  have differ : (items.mergeSort fun left right => decide (key left ≤ key right)).Pairwise
      fun left right => key left ≠ key right :=
    List.pairwise_map.mp (((List.mergeSort_perm items _).map key).symm.nodup single)
  refine (sorted.and differ).imp ?_
  intro left right both
  refine String.not_le.mp fun least => both.2 ?_
  exact String.le_antisymm (of_decide_eq_true both.1) least

end ChangeImpact
