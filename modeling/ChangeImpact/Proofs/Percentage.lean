import ChangeImpact.Proofs.Nearest
import ChangeImpact.Proofs.Score
import Mathlib.Data.Rat.Floor

/-!
The percentage of a graph that a change touches is rounded half up, although it is rounded twice on the way. A part of
fewer than 2 ^ 46 nodes that is less than a half short of the next percent is so by more than half the distance of two
numbers of the format; so the first rounding stays below the half, and the second below the next percent. Below a half
of one percent there is no such room, and there the score is one in any case.
-/

set_option autoImplicit false

namespace ChangeImpact

namespace Binary64

theorem value_halves (halves : Nat) : value (halves, -1) = halves / 2 := by
  rw [value, zpow_neg, zpow_one, div_eq_mul_inv]

theorem held_halves {halves : Nat} (few : halves < 2 ^ 53) : Held (halves, -1) :=
  ⟨few, by unfold minExponent; omega⟩

section

variable {exact : ℚ} {parts : Nat × Int} (near : Nearest exact parts) (halves : Nat)
  (few : halves < 2 ^ 53)

include near few

/-- Rounding does not pass over a multiple of a half. -/
theorem Nearest.le_halves (below : exact ≤ halves / 2) : value parts ≤ halves / 2 := by
  rw [← value_halves] at below ⊢
  exact near.le (held_halves few) below

theorem Nearest.ge_halves (above : halves / 2 ≤ exact) : halves / 2 ≤ value parts := by
  rw [← value_halves] at above ⊢
  exact near.ge (held_halves few) above

end

theorem value_nonneg (parts : Nat × Int) : 0 ≤ value parts :=
  mul_nonneg (Nat.cast_nonneg _) (two_zpow_pos _).le

/-- The number just below a multiple of a half, in units of the mantissas with so many bits before the point. -/
theorem below_halves (bits : Nat) {halves : Nat} (few : bits ≤ 51) (positive : 0 < halves)
    (bound : halves ≤ 2 ^ (bits + 2)) :
    Held (halves * 2 ^ (51 - bits) - 1, (bits : Int) - 52) ∧
      value (halves * 2 ^ (51 - bits) - 1, (bits : Int) - 52) =
        halves / 2 - 2 ^ ((bits : Int) - 52) := by
  have whole : 1 ≤ halves * 2 ^ (51 - bits) := Nat.mul_pos positive (Nat.two_pow_pos _)
  constructor
  · constructor
    · have most : halves * 2 ^ (51 - bits) ≤ 2 ^ (bits + 2) * 2 ^ (51 - bits) :=
        Nat.mul_le_mul_right _ bound
      have bits53 : bits + 2 + (51 - bits) = 53 := by omega
      rw [← Nat.pow_add, bits53] at most
      dsimp only
      omega
    · unfold minExponent
      dsimp only
      omega
  · have shift : ((2 : ℚ) ^ (51 - bits)) * 2 ^ ((bits : Int) - 52) = 1 / 2 := by
      rw [← zpow_natCast, ← zpow_add₀ (by norm_num)]
      have exponent : ((51 - bits : Nat) : Int) + ((bits : Int) - 52) = -1 := by omega
      rw [exponent]
      norm_num
    rw [value]
    push_cast [Nat.cast_sub whole]
    rw [sub_mul, mul_assoc, shift]
    ring

theorem log2_halves (whole : Nat) : 2 * whole + 2 ≤ 2 ^ (whole.log2 + 2) := by
  have upper := Nat.lt_log2_self (n := whole)
  rw [Nat.pow_succ]
  omega

/-- A number that is more than half a unit short of a half is rounded to at least one unit below it. -/
theorem Nearest.below_half {exact gap : ℚ} {parts : Nat × Int} (near : Nearest exact parts)
    {whole : Nat} (positive : 0 < whole) (few : whole.log2 ≤ 51)
    (short : exact + gap ≤ whole + 1 / 2) (room : (2 : ℚ) ^ ((whole.log2 : Int) - 52) < 2 * gap) :
    value parts ≤ whole + 1 / 2 - 2 ^ ((whole.log2 : Int) - 52) := by
  have bound : 2 * whole + 1 ≤ 2 ^ (whole.log2 + 2) := by
    have halves := log2_halves whole
    omega
  obtain ⟨held, just⟩ := below_halves whole.log2 few (Nat.succ_pos (2 * whole)) bound
  have nearest := near.nearest _ held
  have full : ((2 ^ 52 : Nat) : ℚ) * 2 ^ ((whole.log2 : Int) - 52) ≤ whole := by
    rw [full_units, Nat.cast_ofNat, Int.sub_add_cancel, zpow_natCast]
    exact_mod_cast Nat.log2_self_le (Nat.ne_of_gt positive)
  have small : (2 : ℚ) ^ ((whole.log2 : Int) - 52) ≤ 1 / 2 := by
    have power : (1 / 2 : ℚ) = 2 ^ (-1 : Int) := by norm_num
    rw [power]
    exact zpow_le_zpow_right₀ (by norm_num) (by omega)
  have unit := two_zpow_pos ((whole.log2 : Int) - 52)
  have counted := held_units near.held ((whole.log2 : Int) - 52)
  have middle : ((2 * whole + 1 : Nat) : ℚ) / 2 = whole + 1 / 2 := by
    push_cast
    ring
  rw [middle] at just
  rw [just] at nearest
  rw [value] at just
  generalize (2 * whole + 1) * 2 ^ (51 - whole.log2) - 1 = below at just
  dsimp only at just
  generalize (2 : ℚ) ^ ((whole.log2 : Int) - 52) = size at *
  rcases counted with ⟨count, same⟩ | ⟨_, less⟩
  · rw [same] at nearest ⊢
    by_cases within : count ≤ below
    · rw [← just]
      exact mul_le_mul_of_nonneg_right (by exact_mod_cast within) unit.le
    · -- At the half or above it, the number would be farther away than the one just below the half.
      exfalso
      have above : ((below : ℚ) + 1) * size ≤ count * size :=
        mul_le_mul_of_nonneg_right (by exact_mod_cast Nat.lt_of_not_le within) unit.le
      rw [add_mul, just, one_mul, sub_add_cancel] at above
      rw [abs_of_nonpos (by linarith)] at nearest
      rcases abs_cases (exact - (whole + 1 / 2 - size)) with ⟨distance, _⟩ | ⟨distance, _⟩ <;>
        rw [distance] at nearest <;> linarith
  · linarith

end Binary64

namespace Impact

open Binary64 (Nearest value)

/-- The percentage of a part, rounded half up in whole numbers. -/
def halfUp (part whole : Nat) : Nat := (200 * part + whole) / (2 * whole)

section

variable {part whole : Nat} (positive : 0 < part) (within : part ≤ whole)

include positive within

theorem halfUp_le : halfUp part whole ≤ 100 := by
  unfold halfUp
  rw [Nat.div_le_iff_le_mul_add_pred (by omega)]
  omega

/-- The percentage lies at most a half below its rounded value, and short of a half above it by one part in twice the
whole at least. -/
theorem halfUp_spec :
    (halfUp part whole : ℚ) ≤ (100 * part : Nat) / (whole : ℚ) + 1 / 2 ∧
      ((100 * part : Nat) : ℚ) / whole + 1 / (2 * whole) ≤ halfUp part whole + 1 / 2 := by
  have size : 0 < 2 * whole := by omega
  have lower := Nat.div_mul_le_self (200 * part + whole) (2 * whole)
  have upper := Nat.lt_mul_div_succ (200 * part + whole) size
  change halfUp part whole * (2 * whole) ≤ 200 * part + whole at lower
  change 200 * part + whole < 2 * whole * (halfUp part whole + 1) at upper
  have bottom : (0 : ℚ) < whole := by exact_mod_cast (by omega : 0 < whole)
  constructor
  · have scaled : (halfUp part whole * (2 * whole) : ℚ) ≤ 200 * part + whole := by exact_mod_cast lower
    have doubled : (halfUp part whole : ℚ) ≤ (200 * part + whole) / (2 * whole) :=
      (le_div_iff₀ (by linarith)).mpr scaled
    calc (halfUp part whole : ℚ) ≤ (200 * part + whole) / (2 * whole) := doubled
      _ = (100 * part : Nat) / (whole : ℚ) + 1 / 2 := by
          push_cast
          field_simp
          ring
  · have scaled : (200 * part + whole + 1 : ℚ) ≤ (halfUp part whole + 1) * (2 * whole) := by
      rw [mul_comm (halfUp part whole + 1 : ℚ)]
      exact_mod_cast upper
    have doubled : ((200 * part + whole + 1) / (2 * whole) : ℚ) ≤ halfUp part whole + 1 :=
      (div_le_iff₀ (by linarith)).mpr scaled
    have split : ((200 * part + whole + 1) / (2 * whole) : ℚ) =
        (100 * part : Nat) / (whole : ℚ) + 1 / (2 * whole) + 1 / 2 := by
      push_cast
      field_simp
      ring
    linarith

variable {percentage sum : Nat × Int} (first : Nearest ((100 * part : Nat) / (whole : ℚ)) percentage)
  (second : Nearest (value percentage + 1 / 2) sum)

include first second

theorem halfUp_le_rounded : (halfUp part whole : ℚ) ≤ value sum := by
  have few := halfUp_le positive within
  have lower := (halfUp_spec positive within).1
  generalize halfUp part whole = percent at *
  cases percent with
  | zero => exact_mod_cast Binary64.value_nonneg sum
  | succ less =>
      have once := first.ge_halves (2 * less + 1) (by omega) (by push_cast at lower ⊢; linarith)
      have twice := second.ge_halves (2 * less + 2) (by omega) (by push_cast at once ⊢; linarith)
      push_cast at twice ⊢
      linarith

/-- Below a half of one percent the sum may be rounded to one, but not beyond. -/
theorem rounded_le_one (little : halfUp part whole = 0) : value sum ≤ 1 := by
  have upper := (halfUp_spec positive within).2
  have gap : (0 : ℚ) ≤ 1 / (2 * whole) := by positivity
  rw [little] at upper
  have once := first.le_halves 1 (by norm_num) (by push_cast at upper ⊢; linarith)
  have twice := second.le_halves 2 (by norm_num) (by push_cast at once ⊢; linarith)
  push_cast at twice
  linarith

theorem rounded_lt_next (bounded : whole < 2 ^ 46) (positivePercent : 0 < halfUp part whole) :
    value sum < halfUp part whole + 1 := by
  have few := halfUp_le positive within
  have upper := (halfUp_spec positive within).2
  generalize halfUp part whole = percent at *
  have bits : percent.log2 ≤ 6 := by
    have small : percent.log2 < 7 := (Nat.log2_lt (by omega)).mpr (by omega)
    omega
  have room : (2 : ℚ) ^ ((percent.log2 : Int) - 52) < 2 * (1 / (2 * whole)) := by
    have bottom : (0 : ℚ) < whole := by exact_mod_cast (by omega : 0 < whole)
    have most : (whole : ℚ) < 2 ^ (46 : Int) := by exact_mod_cast bounded
    calc (2 : ℚ) ^ ((percent.log2 : Int) - 52) ≤ 2 ^ (-46 : Int) :=
          zpow_le_zpow_right₀ (by norm_num) (by omega)
      _ = (2 ^ (46 : Int))⁻¹ := zpow_neg 2 46
      _ < (whole : ℚ)⁻¹ := inv_strictAnti₀ bottom most
      _ = 2 * (1 / (2 * whole)) := by field_simp
  have once := first.below_half positivePercent (by omega) upper room
  obtain ⟨held, just⟩ := Binary64.below_halves percent.log2 (by omega)
    (Nat.succ_pos (2 * percent + 1)) (Binary64.log2_halves percent)
  have unit := Binary64.two_zpow_pos ((percent.log2 : Int) - 52)
  have twice := second.le held (by rw [just]; push_cast; linarith)
  rw [just] at twice
  push_cast at twice
  linarith

theorem floor_rounded (bounded : whole < 2 ^ 46) :
    max 1 ⌊value sum⌋ = max 1 (halfUp part whole : Int) := by
  have lower : (halfUp part whole : Int) ≤ ⌊value sum⌋ :=
    Int.le_floor.mpr (by exact_mod_cast halfUp_le_rounded positive within first second)
  by_cases little : halfUp part whole = 0
  · have upper : ⌊value sum⌋ ≤ 1 := by
      rw [← Int.lt_add_one_iff, Int.floor_lt]
      have one := rounded_le_one positive within first second little
      push_cast
      linarith
    omega
  · have upper : ⌊value sum⌋ < (halfUp part whole : Int) + 1 := by
      rw [Int.floor_lt]
      exact_mod_cast rounded_lt_next positive within first second bounded (by omega)
    omega

end

/-! ### The score -/

theorem roundedQuotient_spec {numerator denominator percent : Nat} (top : 0 < numerator)
    (bottom : 0 < denominator) (answered : roundedQuotient numerator denominator = .ok percent) :
    ∃ quotient sum, Nearest ((numerator : ℚ) / denominator) quotient ∧
      Nearest (value quotient + 1 / 2) sum ∧ (percent : Int) = ⌊value sum⌋ := by
  unfold roundedQuotient at answered
  dsimp only at answered
  split at answered
  · cases answered
  · obtain rfl := Except.ok.inj answered
    have exact := Binary64.quotient_ratio (Binary64.roundRatio numerator denominator).1
      (Binary64.roundRatio numerator denominator).2
    have positive := Binary64.ratio_pos (Binary64.roundRatio numerator denominator).1
      (Binary64.roundRatio numerator denominator).2
    generalize Binary64.ratio _ _ = parts at exact positive ⊢
    have added : ((2 * parts.1 + parts.2 : Nat) : ℚ) / (2 * parts.2 : Nat) =
        value (Binary64.roundRatio numerator denominator) + 1 / 2 := by
      have nonzero : (parts.2 : ℚ) ≠ 0 := by exact_mod_cast Nat.ne_of_gt positive
      rw [← exact, Binary64.quotient]
      push_cast
      field_simp
    have rounded : Nearest (((2 * parts.1 + parts.2 : Nat) : ℚ) / (2 * parts.2 : Nat)) _ :=
      Binary64.roundRatio_nearest (by omega) (by omega)
    rw [added] at rounded
    refine ⟨_, _, Binary64.roundRatio_nearest top bottom, rounded, ?_⟩
    rw [← Binary64.quotient_ratio, Binary64.quotient, Rat.floor_natCast_div_natCast]
    rfl

/-- The score is the percentage rounded half up and raised to one, as if both roundings on the way were exact. -/
theorem score_rounds_half_up (affected total : Int) (touched : 0 < affected) (within : affected ≤ total)
    (bounded : total < 2 ^ 46) :
    ∃ percentage sum : Nat × Int, Nearest (100 * (affected : ℚ) / total) percentage ∧
      Nearest (value percentage + 1 / 2) sum ∧
      ∃ percent : Nat, score affected total = .ok percent ∧
        (percent : Int) = min 100 (max 1 ⌊value sum⌋) ∧
        (percent : Int) = max 1 ((200 * affected + total) / (2 * total)) ∧
        1 ≤ percent ∧ percent ≤ 100 := by
  obtain ⟨part, rfl⟩ := Int.eq_ofNat_of_zero_le (Int.le_of_lt touched)
  obtain ⟨whole, rfl⟩ := Int.eq_ofNat_of_zero_le (Int.le_trans (Int.le_of_lt touched) within)
  have positive : 0 < part := by omega
  have inside : part ≤ whole := by omega
  obtain ⟨percent, answered⟩ := roundedQuotient_exists inside positive
  obtain ⟨percentage, sum, first, second, floor⟩ :=
    roundedQuotient_spec (by omega) (by omega) answered
  have raised := floor_rounded positive inside first second (by exact_mod_cast bounded)
  have few := halfUp_le positive inside
  have exact : (halfUp part whole : Int) = (200 * (part : Int) + whole) / (2 * whole) := by
    unfold halfUp
    push_cast
    rfl
  have scored : score (part : Int) (whole : Int) = .ok (min 100 (max 1 percent)) := by
    unfold score
    rw [if_neg (by omega), Int.toNat_natCast, Int.toNat_natCast, answered]
    rfl
  rw [← floor] at raised
  refine ⟨percentage, sum, ?_, second, min 100 (max 1 percent), scored, ?_⟩
  · push_cast at first ⊢
    exact first
  · rw [← exact, ← floor]
    omega

theorem score_rounds_half_up_close :
    (0 : Int) < 44684152552816 ∧ (44684152552816 : Int) ≤ 70368744177663 ∧
      (70368744177663 : Int) < 2 ^ 46 ∧
      ∃ percentage sum : Nat × Int,
        Nearest (100 * (44684152552816 : Int) / (70368744177663 : Int)) percentage ∧
        Nearest (value percentage + 1 / 2) sum ∧
        ∃ percent : Nat, score 44684152552816 70368744177663 = .ok percent ∧
          (percent : Int) = min 100 (max 1 ⌊value sum⌋) ∧
          (percent : Int) = max 1 ((200 * 44684152552816 + 70368744177663) / (2 * 70368744177663)) ∧
          1 ≤ percent ∧ percent ≤ 100 :=
  ⟨by norm_num, by norm_num, by norm_num,
    score_rounds_half_up 44684152552816 70368744177663 (by norm_num) (by norm_num) (by norm_num)⟩

end Impact

end ChangeImpact
