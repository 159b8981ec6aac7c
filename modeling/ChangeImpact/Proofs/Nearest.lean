import ChangeImpact.Proofs.Rounding
import Mathlib.Tactic.Linarith

/-!
Rounding is to the nearest number of the format, and to the even mantissa when two are equally near. The rounded
mantissa is the nearest whole number of units; a number of the format is either a whole number of these units too or
lies below the smallest full mantissa, which the fraction does not.
-/

set_option autoImplicit false

namespace ChangeImpact.Binary64

/-- The mantissas and exponents of the format, its upper end apart. -/
def Held (parts : Nat × Int) : Prop := parts.1 < 2 ^ 53 ∧ minExponent ≤ parts.2

/-- What it means that a number is rounded to the nearest one of the format, ties to the even mantissa. The mantissa
is a full one unless the exponent is the smallest, so that it is the only one of its value. -/
structure Nearest (exact : ℚ) (parts : Nat × Int) : Prop where
  held : Held parts
  normal : 2 ^ 52 ≤ parts.1 ∨ parts.2 = minExponent
  nearest : ∀ other, Held other → |exact - value parts| ≤ |exact - value other|
  even : ∀ other, Held other → value other ≠ value parts →
    |exact - value other| = |exact - value parts| → parts.1 % 2 = 0

section

variable {exact : ℚ} {parts other : Nat × Int}

/-- Rounding does not pass over a number of the format. -/
theorem Nearest.le (near : Nearest exact parts) (held : Held other) (below : exact ≤ value other) :
    value parts ≤ value other := by
  by_contra above
  have least := near.nearest other held
  rw [abs_of_nonpos (by linarith), abs_of_nonpos (by linarith)] at least
  linarith

theorem farther_below {low high : ℚ} (less : low < high) (above : high ≤ exact) :
    |exact - high| < |exact - low| := by
  rw [abs_of_nonneg (by linarith), abs_of_nonneg (by linarith)]
  linarith

theorem Nearest.ge (near : Nearest exact parts) (held : Held other) (above : value other ≤ exact) :
    value other ≤ value parts := by
  by_contra below
  exact absurd (near.nearest other held) (not_le.mpr (farther_below (not_le.mp below) above))

end

/-! ### The nearest whole number -/

section

variable {numerator denominator : Nat}

theorem roundHalfEven_half (numerator : Nat) (positive : 0 < denominator) :
    |(numerator : ℚ) / denominator - roundHalfEven numerator denominator| ≤ 1 / 2 ∧
      (|(numerator : ℚ) / denominator - roundHalfEven numerator denominator| = 1 / 2 →
        roundHalfEven numerator denominator % 2 = 0) := by
  obtain ⟨lower, upper, tie⟩ := roundHalfEven_spec numerator positive
  generalize roundHalfEven numerator denominator = rounded at *
  have bottom : (0 : ℚ) < denominator := by exact_mod_cast positive
  have split : (numerator : ℚ) = numerator / denominator * denominator :=
    (div_mul_cancel₀ _ bottom.ne').symm
  generalize (numerator : ℚ) / denominator = exact at split ⊢
  constructor
  · have below : (2 * denominator * rounded : ℚ) ≤ 2 * numerator + denominator := by
      exact_mod_cast lower
    have above : (2 * numerator : ℚ) ≤ 2 * denominator * rounded + denominator := by
      exact_mod_cast upper
    rw [abs_le]
    constructor
    · by_contra less
      nlinarith
    · by_contra greater
      nlinarith
  · intro half
    apply tie
    rcases (abs_eq (by norm_num)).mp half with above | under
    · right
      have doubled : (2 * numerator : ℚ) = 2 * denominator * rounded + denominator := by
        rw [split, eq_add_of_sub_eq above]
        ring
      exact_mod_cast doubled
    · left
      have doubled : (2 * denominator * rounded : ℚ) = 2 * numerator + denominator := by
        rw [split, eq_add_of_sub_eq under]
        ring
      exact_mod_cast doubled

theorem roundHalfEven_nearest (numerator : Nat) (positive : 0 < denominator) (whole : Nat) :
    |(numerator : ℚ) / denominator - roundHalfEven numerator denominator| ≤
        |(numerator : ℚ) / denominator - whole| ∧
      (whole ≠ roundHalfEven numerator denominator →
        |(numerator : ℚ) / denominator - whole| =
          |(numerator : ℚ) / denominator - roundHalfEven numerator denominator| →
        roundHalfEven numerator denominator % 2 = 0) := by
  obtain ⟨near, tie⟩ := roundHalfEven_half numerator positive
  generalize roundHalfEven numerator denominator = rounded at *
  generalize (numerator : ℚ) / denominator = exact at *
  by_cases same : whole = rounded
  · subst same
    exact ⟨le_refl _, fun different => absurd rfl different⟩
  -- Two different whole numbers are at least one apart, so one of them is at least a half away.
  have apart : (1 : ℚ) ≤ |exact - whole| + |exact - rounded| := by
    have different : (1 : ℤ) ≤ |(whole : ℤ) - rounded| := Int.one_le_abs (by omega)
    calc (1 : ℚ) ≤ |(whole : ℚ) - rounded| := by exact_mod_cast different
      _ = |(exact - rounded) - (exact - whole)| := by congr 1; ring
      _ ≤ |exact - rounded| + |exact - whole| := abs_sub _ _
      _ = |exact - whole| + |exact - rounded| := add_comm _ _
  constructor
  · linarith
  · intro _ equal
    apply tie
    linarith

/-! ### The nearest number of the format -/

/-- The mantissa before a full one is carried over. -/
def units (numerator denominator : Nat) : Nat :=
  roundHalfEven (scale numerator denominator (exponentOf numerator denominator)).1
    (scale numerator denominator (exponentOf numerator denominator)).2

theorem units_nearest (numerator : Nat) (bottom : 0 < denominator) (whole : Nat) :
    |(numerator : ℚ) / denominator - value (roundRatio numerator denominator)| ≤
        |(numerator : ℚ) / denominator - whole * 2 ^ exponentOf numerator denominator| ∧
      (whole ≠ units numerator denominator →
        |(numerator : ℚ) / denominator - whole * 2 ^ exponentOf numerator denominator| =
          |(numerator : ℚ) / denominator - value (roundRatio numerator denominator)| →
        units numerator denominator % 2 = 0) := by
  have scaled := quotient_scale numerator denominator (exponentOf numerator denominator)
  have nearest := roundHalfEven_nearest (scale numerator denominator (exponentOf numerator denominator)).1
    (scale_pos numerator bottom (exponentOf numerator denominator)) whole
  unfold quotient at scaled
  rw [scaled] at nearest
  rw [value_roundRatio]
  unfold units
  generalize roundHalfEven _ _ = rounded at *
  have unit := two_zpow_pos (exponentOf numerator denominator)
  generalize (2 : ℚ) ^ exponentOf numerator denominator = size at *
  generalize (numerator : ℚ) / denominator = exact at *
  have distance (count : ℚ) : |exact - count * size| = |exact / size - count| * size := by
    rw [← abs_of_pos unit, ← abs_mul, abs_of_pos unit, sub_mul, div_mul_cancel₀ _ unit.ne']
  rw [distance, distance, mul_right_cancel_iff_of_pos unit]
  exact ⟨mul_le_mul_of_nonneg_right nearest.1 unit.le, nearest.2⟩

theorem units_le (top : 0 < numerator) (bottom : 0 < denominator) :
    units numerator denominator ≤ 2 ^ 53 := by
  apply roundHalfEven_scale_le bottom
  have upper := (magnitude_spec top bottom).2
  rw [full_units]
  refine upper.le.trans (zpow_le_zpow_right₀ (by norm_num) ?_)
  unfold exponentOf
  omega

/-- Above the smallest unit the fraction has at least as many units as the smallest full mantissa. -/
theorem full_le (top : 0 < numerator) (bottom : 0 < denominator)
    (normal : minExponent < exponentOf numerator denominator) :
    ((2 ^ 52 : Nat) : ℚ) * 2 ^ exponentOf numerator denominator ≤ numerator / denominator := by
  have lower := (magnitude_spec top bottom).1
  have exponents : exponentOf numerator denominator + (52 : Nat) = magnitude numerator denominator := by
    unfold exponentOf at normal ⊢
    omega
  rwa [full_units, exponents]

/-- A number of the format is a whole number of units, unless it lies below the smallest full mantissa. -/
theorem held_units {other : Nat × Int} (held : Held other) (exponent : Int) :
    (∃ whole : Nat, value other = whole * 2 ^ exponent) ∨
      (minExponent < exponent ∧ value other < ((2 ^ 52 : Nat) : ℚ) * 2 ^ exponent) := by
  obtain ⟨mantissa, scale⟩ := other
  obtain ⟨bits, least⟩ := held
  by_cases larger : exponent ≤ scale
  · left
    obtain ⟨shift, rfl⟩ : ∃ shift : Nat, scale = exponent + shift := ⟨(scale - exponent).toNat, by omega⟩
    refine ⟨mantissa * 2 ^ shift, ?_⟩
    rw [value, zpow_add₀ (by norm_num), zpow_natCast]
    push_cast
    ring
  · right
    refine ⟨by omega, ?_⟩
    have fewer : (mantissa : ℚ) < (2 ^ 53 : Nat) := by exact_mod_cast bits
    calc value (mantissa, scale) = mantissa * 2 ^ scale := rfl
      _ < (2 ^ 53 : Nat) * 2 ^ scale := mul_lt_mul_of_pos_right fewer (two_zpow_pos scale)
      _ = 2 ^ (scale + (53 : Nat)) := full_units scale 53
      _ ≤ 2 ^ (exponent + (52 : Nat)) := zpow_le_zpow_right₀ (by norm_num) (by omega)
      _ = ((2 ^ 52 : Nat) : ℚ) * 2 ^ exponent := (full_units exponent 52).symm

theorem roundRatio_held (top : 0 < numerator) (bottom : 0 < denominator) :
    Held (roundRatio numerator denominator) ∧
      (2 ^ 52 ≤ (roundRatio numerator denominator).1 ∨ (roundRatio numerator denominator).2 = minExponent) ∧
      (units numerator denominator % 2 = 0 → (roundRatio numerator denominator).1 % 2 = 0) := by
  have most := units_le top bottom
  have least : minExponent ≤ exponentOf numerator denominator := Int.le_max_right _ _
  have full : minExponent < exponentOf numerator denominator → 2 ^ 52 ≤ units numerator denominator :=
    fun normal => le_roundHalfEven_scale bottom _ (full_le top bottom normal)
  unfold roundRatio
  dsimp only
  split
  · refine ⟨⟨?_, Int.le_trans least (Int.le_add_one (Int.le_refl _))⟩, Or.inl (Nat.le_refl _), ?_⟩
    · exact Nat.pow_lt_pow_right (by decide) (by decide)
    · have even : Nat.pow 2 52 % 2 = 0 := by decide
      exact fun _ => even
  · rename_i carried
    change ¬units numerator denominator = 2 ^ 53 at carried
    refine ⟨⟨Nat.lt_of_le_of_ne most carried, least⟩, ?_, id⟩
    by_cases normal : minExponent < exponentOf numerator denominator
    · exact Or.inl (full normal)
    · exact Or.inr (by dsimp only; omega)

theorem roundRatio_nearest (top : 0 < numerator) (bottom : 0 < denominator) :
    Nearest ((numerator : ℚ) / denominator) (roundRatio numerator denominator) := by
  obtain ⟨held, normal, even⟩ := roundRatio_held top bottom
  refine ⟨held, normal, ?_, ?_⟩
  · intro other otherHeld
    rcases held_units otherHeld (exponentOf numerator denominator) with ⟨whole, same⟩ | ⟨above, less⟩
    · rw [same]
      exact (units_nearest numerator bottom whole).1
    · exact (units_nearest numerator bottom (2 ^ 52)).1.trans
        (farther_below less (full_le top bottom above)).le
  · intro other otherHeld different tie
    apply even
    rcases held_units otherHeld (exponentOf numerator denominator) with ⟨whole, same⟩ | ⟨above, less⟩
    · rw [same] at different tie
      refine (units_nearest numerator bottom whole).2 ?_ tie
      intro equal
      apply different
      rw [value_roundRatio, equal]
      rfl
    · -- Below the smallest full mantissa a number is farther away than that mantissa is.
      have farther := farther_below less (full_le top bottom above)
      exact absurd tie (((units_nearest numerator bottom (2 ^ 52)).1.trans_lt farther).ne')

end

end ChangeImpact.Binary64
