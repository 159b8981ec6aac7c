import ChangeImpact.Number.Binary64
import Mathlib.Algebra.Order.Field.Basic
import Mathlib.Algebra.Order.Field.Power
import Mathlib.Algebra.Order.Ring.Rat
import Mathlib.Tactic.FieldSimp
import Mathlib.Tactic.NormNum
import Mathlib.Tactic.Ring

/-!
Rounding to 53 bits, seen in the rational numbers. A fraction is scaled to a whole number of units, the nearest whole
number is taken, and the unit goes up with the fraction; so a larger fraction is never rounded to a smaller value.
-/

set_option autoImplicit false

namespace ChangeImpact.Binary64

def value (parts : Nat × Int) : ℚ := parts.1 * 2 ^ parts.2

def quotient (parts : Nat × Nat) : ℚ := parts.1 / parts.2

variable {numerator denominator : Nat}

theorem two_zpow_pos (exponent : Int) : (0 : ℚ) < 2 ^ exponent := zpow_pos (by norm_num) exponent

/-! ### Scaling -/

theorem scale_pos (numerator : Nat) (positive : 0 < denominator) (exponent : Int) :
    0 < (scale numerator denominator exponent).2 := by
  unfold scale
  split
  · exact positive
  · exact Nat.mul_pos positive (Nat.pow_pos (by decide))

theorem quotient_scale (numerator denominator : Nat) (exponent : Int) :
    quotient (scale numerator denominator exponent) = numerator / denominator / 2 ^ exponent := by
  unfold scale quotient
  split
  · rename_i negative
    obtain ⟨shift, rfl⟩ : ∃ shift : Nat, exponent = -shift := ⟨exponent.natAbs, by omega⟩
    rw [Int.neg_neg, Int.toNat_natCast, zpow_neg, zpow_natCast]
    push_cast
    rw [Nat.pow_eq]
    push_cast
    field_simp
  · rename_i nonnegative
    obtain ⟨shift, rfl⟩ : ∃ shift : Nat, exponent = shift := ⟨exponent.natAbs, by omega⟩
    rw [Int.toNat_natCast, zpow_natCast]
    push_cast
    rw [Nat.pow_eq]
    push_cast
    rw [div_div]

theorem ratio_eq_scale (mantissa : Nat) (exponent : Int) :
    ratio mantissa exponent = scale mantissa 1 (-exponent) := by
  unfold ratio scale
  rcases Int.lt_trichotomy exponent 0 with negative | rfl | positive
  · rw [if_pos negative, if_neg (by omega), Nat.one_mul]
  · simp
  · rw [if_neg (by omega), if_pos (by omega), Int.neg_neg]

theorem ratio_pos (mantissa : Nat) (exponent : Int) : 0 < (ratio mantissa exponent).2 := by
  rw [ratio_eq_scale]
  exact scale_pos mantissa Nat.one_pos _

theorem quotient_ratio (mantissa : Nat) (exponent : Int) :
    quotient (ratio mantissa exponent) = value (mantissa, exponent) := by
  rw [ratio_eq_scale, quotient_scale, zpow_neg, div_inv_eq_mul, Nat.cast_one, div_one]
  rfl

/-! ### The unit -/

/-- A fraction lies between the power of two of its magnitude and the next. -/
theorem magnitude_spec (top : 0 < numerator) (bottom : 0 < denominator) :
    (2 : ℚ) ^ magnitude numerator denominator ≤ numerator / denominator ∧
      (numerator : ℚ) / denominator < 2 ^ (magnitude numerator denominator + 1) := by
  have topLower : (2 : ℚ) ^ (numerator.log2 : Int) ≤ numerator := by
    exact_mod_cast Nat.log2_self_le (Nat.ne_of_gt top)
  have topUpper : (numerator : ℚ) < 2 ^ (numerator.log2 + 1 : Int) := by
    exact_mod_cast Nat.lt_log2_self (n := numerator)
  have bottomLower : (2 : ℚ) ^ (denominator.log2 : Int) ≤ denominator := by
    exact_mod_cast Nat.log2_self_le (Nat.ne_of_gt bottom)
  have bottomUpper : (denominator : ℚ) < 2 ^ (denominator.log2 + 1 : Int) := by
    exact_mod_cast Nat.lt_log2_self (n := denominator)
  have positive : (0 : ℚ) < denominator := by exact_mod_cast bottom
  have two : (2 : ℚ) ≠ 0 := by norm_num
  generalize guessed : (Int.ofNat numerator.log2 - Int.ofNat denominator.log2 : Int) = guess
  have topLog : (numerator.log2 : Int) = guess + denominator.log2 := by
    rw [← guessed]
    simp only [Int.ofNat_eq_natCast]
    omega
  have compared := quotient_scale numerator denominator guess
  have scaled := scale_pos numerator bottom guess
  unfold magnitude
  rw [guessed]
  dsimp only
  split
  · rename_i atLeast
    have whole : (1 : ℚ) ≤ quotient (scale numerator denominator guess) := by
      unfold quotient
      rw [one_le_div (by exact_mod_cast scaled)]
      exact_mod_cast atLeast
    rw [compared, one_le_div (two_zpow_pos guess)] at whole
    refine ⟨whole, ?_⟩
    rw [div_lt_iff₀ positive]
    calc (numerator : ℚ) < 2 ^ (numerator.log2 + 1 : Int) := topUpper
      _ = 2 ^ (guess + 1) * 2 ^ (denominator.log2 : Int) := by
          rw [← zpow_add₀ two, topLog]
          congr 1
          omega
      _ ≤ 2 ^ (guess + 1) * denominator :=
          mul_le_mul_of_nonneg_left bottomLower (two_zpow_pos _).le
  · rename_i below
    have part : quotient (scale numerator denominator guess) < 1 := by
      unfold quotient
      rw [div_lt_one (by exact_mod_cast scaled)]
      exact_mod_cast Nat.lt_of_not_le below
    rw [compared, div_lt_one (two_zpow_pos guess)] at part
    refine ⟨?_, by rwa [Int.sub_add_cancel]⟩
    rw [le_div_iff₀ positive]
    calc (2 : ℚ) ^ (guess - 1) * denominator
        ≤ 2 ^ (guess - 1) * 2 ^ (denominator.log2 + 1 : Int) :=
          mul_le_mul_of_nonneg_left bottomUpper.le (two_zpow_pos _).le
      _ = 2 ^ (numerator.log2 : Int) := by
          rw [← zpow_add₀ two, topLog]
          congr 1
          omega
      _ ≤ numerator := topLower

theorem magnitude_mono {top bottom : Nat} (topPos : 0 < numerator) (bottomPos : 0 < denominator)
    (otherTop : 0 < top) (otherBottom : 0 < bottom)
    (less : (numerator : ℚ) / denominator ≤ top / bottom) :
    magnitude numerator denominator ≤ magnitude top bottom := by
  have lower := (magnitude_spec topPos bottomPos).1
  have upper := (magnitude_spec otherTop otherBottom).2
  have powers : (2 : ℚ) ^ magnitude numerator denominator < 2 ^ (magnitude top bottom + 1) :=
    lower.trans_lt (less.trans_lt upper)
  have exponents := (zpow_lt_zpow_iff_right₀ (by norm_num : (1 : ℚ) < 2)).mp powers
  omega

/-! ### The nearest whole number -/

/-- The whole number is at most a half away, and it is even if it is exactly a half away. -/
theorem roundHalfEven_spec (numerator : Nat) (positive : 0 < denominator) :
    let rounded := roundHalfEven numerator denominator
    2 * denominator * rounded ≤ 2 * numerator + denominator ∧
      2 * numerator ≤ 2 * denominator * rounded + denominator ∧
      (2 * denominator * rounded = 2 * numerator + denominator ∨
        2 * numerator = 2 * denominator * rounded + denominator → rounded % 2 = 0) := by
  have division := Nat.div_add_mod numerator denominator
  have small := Nat.mod_lt numerator positive
  unfold roundHalfEven
  dsimp only
  generalize numerator / denominator = whole at *
  generalize numerator % denominator = rest at *
  subst division
  split
  · rename_i below
    rw [Nat.mul_assoc]
    omega
  split
  · rename_i _ above
    rw [Nat.mul_assoc, Nat.mul_add, Nat.mul_one]
    omega
  · rename_i notBelow notAbove
    rcases Nat.mod_two_eq_zero_or_one whole with even | odd
    · rw [even, Nat.add_zero, Nat.mul_assoc]
      omega
    · rw [odd, Nat.mul_assoc, Nat.mul_add, Nat.mul_one]
      omega

/-- A larger fraction is not rounded to a smaller whole number: between the two there would be room for one half only,
and both would be even. -/
theorem roundHalfEven_mono {top bottom : Nat} (bottomPos : 0 < denominator) (otherBottom : 0 < bottom)
    (less : numerator * bottom ≤ top * denominator) :
    roundHalfEven numerator denominator ≤ roundHalfEven top bottom := by
  obtain ⟨near, _, evenNear⟩ := roundHalfEven_spec numerator bottomPos
  obtain ⟨_, far, evenFar⟩ := roundHalfEven_spec top otherBottom
  generalize roundHalfEven numerator denominator = left at *
  generalize roundHalfEven top bottom = right at *
  by_contra greater
  obtain ⟨extra, rfl⟩ : ∃ extra, left = right + 1 + extra := ⟨left - right - 1, by omega⟩
  have nearScaled := Nat.mul_le_mul_right bottom near
  have farScaled := Nat.mul_le_mul_right denominator far
  have cross : 2 * denominator * (right + 1 + extra) * bottom =
      (2 * bottom * right + bottom) * denominator + denominator * bottom +
        2 * (denominator * bottom * extra) := by ring
  have sumLeft : (2 * numerator + denominator) * bottom = 2 * (numerator * bottom) + denominator * bottom := by
    ring
  have sumRight : 2 * top * denominator = 2 * (top * denominator) := by ring
  have area : 0 < denominator * bottom := Nat.mul_pos bottomPos otherBottom
  have noExtra : extra = 0 := by
    by_contra some
    have larger : denominator * bottom * 1 ≤ denominator * bottom * extra :=
      Nat.mul_le_mul_left _ (by omega)
    omega
  subst noExtra
  have tieFar : 2 * top = 2 * bottom * right + bottom := by
    apply Nat.le_antisymm far
    apply Nat.le_of_mul_le_mul_right _ bottomPos
    omega
  have tieNear : 2 * denominator * (right + 1 + 0) = 2 * numerator + denominator := by
    apply Nat.le_antisymm near
    apply Nat.le_of_mul_le_mul_right _ otherBottom
    omega
  have one := evenNear (Or.inl tieNear)
  have two := evenFar (Or.inr tieFar)
  omega

theorem roundHalfEven_one (whole : Nat) : roundHalfEven whole 1 = whole := by
  unfold roundHalfEven
  simp only [Nat.div_one, Nat.mod_one, Nat.mul_zero, Nat.one_pos, if_true]

/-! ### The rounded value -/

section

variable {top bottom : Nat} (bottomPos : 0 < denominator) (otherBottom : 0 < bottom)
  (less : (numerator : ℚ) / denominator ≤ top / bottom)

include bottomPos otherBottom less

theorem roundHalfEven_scale_mono (exponent : Int) :
    roundHalfEven (scale numerator denominator exponent).1 (scale numerator denominator exponent).2 ≤
      roundHalfEven (scale top bottom exponent).1 (scale top bottom exponent).2 := by
  have left := scale_pos numerator bottomPos exponent
  have right := scale_pos top otherBottom exponent
  have scaled : quotient (scale numerator denominator exponent) ≤ quotient (scale top bottom exponent) := by
    rw [quotient_scale, quotient_scale]
    exact div_le_div_of_nonneg_right less (two_zpow_pos exponent).le
  unfold quotient at scaled
  rw [div_le_div_iff₀ (by exact_mod_cast left) (by exact_mod_cast right)] at scaled
  exact roundHalfEven_mono left right (by exact_mod_cast scaled)

end

/-- The value is a whole number of units of the fraction's own size; a full mantissa is carried over. -/
theorem value_roundRatio (numerator denominator : Nat) :
    value (roundRatio numerator denominator) =
      roundHalfEven (scale numerator denominator (exponentOf numerator denominator)).1
          (scale numerator denominator (exponentOf numerator denominator)).2 *
        2 ^ exponentOf numerator denominator := by
  unfold roundRatio value
  dsimp only
  split
  · rename_i full
    have carried : ((Nat.pow 2 53 : Nat) : ℚ) = (Nat.pow 2 52 : Nat) * 2 := by norm_num
    rw [full, carried, zpow_add₀ (by norm_num), zpow_one]
    ring
  · rfl

/-- A fraction of at most so many units is rounded to at most so many. -/
theorem roundHalfEven_scale_le (bottom : 0 < denominator) (exponent : Int) {units : Nat}
    (below : (numerator : ℚ) / denominator ≤ units * 2 ^ exponent) :
    roundHalfEven (scale numerator denominator exponent).1 (scale numerator denominator exponent).2 ≤ units := by
  have positive := scale_pos numerator bottom exponent
  have scaled : quotient (scale numerator denominator exponent) ≤ units := by
    rw [quotient_scale, div_le_iff₀ (two_zpow_pos exponent)]
    exact below
  unfold quotient at scaled
  rw [div_le_iff₀ (by exact_mod_cast positive)] at scaled
  rw [← roundHalfEven_one units]
  apply roundHalfEven_mono positive Nat.one_pos
  rw [Nat.mul_one]
  exact_mod_cast scaled

theorem le_roundHalfEven_scale (bottom : 0 < denominator) (exponent : Int) {units : Nat}
    (above : units * 2 ^ exponent ≤ (numerator : ℚ) / denominator) :
    units ≤ roundHalfEven (scale numerator denominator exponent).1 (scale numerator denominator exponent).2 := by
  have positive := scale_pos numerator bottom exponent
  have scaled : (units : ℚ) ≤ quotient (scale numerator denominator exponent) := by
    rw [quotient_scale, le_div_iff₀ (two_zpow_pos exponent)]
    exact above
  unfold quotient at scaled
  rw [le_div_iff₀ (by exact_mod_cast positive)] at scaled
  rw [← roundHalfEven_one units]
  apply roundHalfEven_mono Nat.one_pos positive
  rw [Nat.mul_one]
  exact_mod_cast scaled

theorem full_units (exponent : Int) (bits : Nat) :
    ((2 ^ bits : Nat) : ℚ) * 2 ^ exponent = 2 ^ (exponent + bits) := by
  rw [zpow_add₀ (by norm_num), zpow_natCast]
  push_cast
  ring

theorem roundRatio_le (top : 0 < numerator) (bottom : 0 < denominator) :
    value (roundRatio numerator denominator) ≤ 2 ^ (exponentOf numerator denominator + (53 : Nat)) := by
  have upper := (magnitude_spec top bottom).2
  have within : magnitude numerator denominator + 1 ≤ exponentOf numerator denominator + (53 : Nat) := by
    unfold exponentOf
    omega
  have bounded : (numerator : ℚ) / denominator ≤ (2 ^ 53 : Nat) * 2 ^ exponentOf numerator denominator := by
    rw [full_units]
    exact upper.le.trans (zpow_le_zpow_right₀ (by norm_num) within)
  rw [value_roundRatio, ← full_units]
  apply mul_le_mul_of_nonneg_right _ (two_zpow_pos _).le
  exact_mod_cast roundHalfEven_scale_le bottom _ bounded

/-- Above the smallest unit the mantissa has all its bits. -/
theorem le_roundRatio (top : 0 < numerator) (bottom : 0 < denominator)
    (normal : minExponent < exponentOf numerator denominator) :
    (2 : ℚ) ^ (exponentOf numerator denominator + (52 : Nat)) ≤ value (roundRatio numerator denominator) := by
  have lower := (magnitude_spec top bottom).1
  have exact : exponentOf numerator denominator + (52 : Nat) = magnitude numerator denominator := by
    unfold exponentOf at normal ⊢
    omega
  have bounded : (2 ^ 52 : Nat) * 2 ^ exponentOf numerator denominator ≤ (numerator : ℚ) / denominator := by
    rw [full_units, exact]
    exact lower
  rw [value_roundRatio, ← full_units]
  apply mul_le_mul_of_nonneg_right _ (two_zpow_pos _).le
  exact_mod_cast le_roundHalfEven_scale bottom _ bounded

/-- A larger fraction is not rounded to a smaller value. -/
theorem roundRatio_mono {top bottom : Nat} (topPos : 0 < numerator) (bottomPos : 0 < denominator)
    (otherTop : 0 < top) (otherBottom : 0 < bottom)
    (less : (numerator : ℚ) / denominator ≤ top / bottom) :
    value (roundRatio numerator denominator) ≤ value (roundRatio top bottom) := by
  have magnitudes := magnitude_mono topPos bottomPos otherTop otherBottom less
  by_cases same : exponentOf numerator denominator = exponentOf top bottom
  · rw [value_roundRatio, value_roundRatio, same]
    apply mul_le_mul_of_nonneg_right _ (two_zpow_pos _).le
    exact_mod_cast roundHalfEven_scale_mono bottomPos otherBottom less _
  · -- With a larger unit even the smallest full mantissa is as large as the largest one before.
    have larger : exponentOf numerator denominator < exponentOf top bottom := by
      unfold exponentOf at same ⊢
      omega
    have normal : minExponent < exponentOf top bottom := by
      apply Int.lt_of_le_of_lt _ larger
      exact Int.le_max_right _ _
    calc value (roundRatio numerator denominator)
        ≤ 2 ^ (exponentOf numerator denominator + (53 : Nat)) := roundRatio_le topPos bottomPos
      _ ≤ 2 ^ (exponentOf top bottom + (52 : Nat)) := zpow_le_zpow_right₀ (by norm_num) (by omega)
      _ ≤ value (roundRatio top bottom) := le_roundRatio otherTop otherBottom normal

end ChangeImpact.Binary64
