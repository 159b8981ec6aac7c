import ChangeImpact.Impact.Score

/-!
The percentage of a graph that a change touches is always a number: a part of the whole is far from the largest
value of the format.
-/

set_option autoImplicit false

namespace ChangeImpact

namespace Binary64

theorem magnitude_le (numerator denominator : Nat) :
    magnitude numerator denominator ≤ Int.ofNat numerator.log2 - Int.ofNat denominator.log2 := by
  unfold magnitude
  dsimp only
  split <;> omega

theorem roundRatio_exponent_le (numerator denominator : Nat) :
    (roundRatio numerator denominator).2 ≤
      max (Int.ofNat numerator.log2 - Int.ofNat denominator.log2 - 51) (minExponent + 1) := by
  have bound := magnitude_le numerator denominator
  unfold roundRatio exponentOf
  dsimp only
  split <;> dsimp only <;> omega

end Binary64

namespace Impact

/-- A quotient of at most a hundred is in the range of the format. -/
theorem roundedQuotient_exists {part whole : Nat} (within : part ≤ whole) (positive : 0 < part) :
    ∃ percent, roundedQuotient (100 * part) whole = .ok percent := by
  have logs : (100 * part).log2 < whole.log2 + 8 := by
    rw [Nat.log2_lt (by omega), Nat.pow_add]
    have upper := Nat.lt_log2_self (n := whole)
    rw [Nat.pow_succ] at upper
    omega
  have exponent := Binary64.roundRatio_exponent_le (100 * part) whole
  have range : ¬Binary64.maxExponent < (Binary64.roundRatio (100 * part) whole).2 := by
    simp only [Binary64.minExponent, Binary64.maxExponent, Int.ofNat_eq_natCast] at *
    omega
  unfold roundedQuotient
  dsimp only
  rw [if_neg range]
  exact ⟨_, rfl⟩

/-- A part of a whole has a score. -/
theorem score_exists {part whole : Nat} (within : part ≤ whole) :
    ∃ percent, score (Int.ofNat part) (Int.ofNat whole) = .ok percent := by
  unfold score
  by_cases nothing : Int.ofNat whole ≤ 0 ∨ Int.ofNat part ≤ 0
  · rw [if_pos nothing]
    exact ⟨0, rfl⟩
  · rw [if_neg nothing]
    have positive : 0 < part := by
      simp only [Int.ofNat_eq_natCast] at nothing
      omega
    obtain ⟨percent, found⟩ := roundedQuotient_exists within positive
    have sizes : (Int.ofNat part).toNat = part ∧ (Int.ofNat whole).toNat = whole := ⟨rfl, rfl⟩
    rw [sizes.1, sizes.2, found]
    exact ⟨_, rfl⟩

end Impact

end ChangeImpact
