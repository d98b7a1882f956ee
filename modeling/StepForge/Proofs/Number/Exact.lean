import Mathlib.Algebra.Order.Field.Power
import Mathlib.Data.Rat.Cast.Order
import Mathlib.Tactic.FieldSimp
import Mathlib.Tactic.Linarith
import Mathlib.Tactic.Positivity
import Mathlib.Tactic.Ring
import StepForge.Number.Shortest

/-!
# `StepForge.Proofs.Number.Exact` — the numbers that data and decimals stand for

Every operation on data computes with natural numbers, so that a power with a negative exponent is moved to the other
side. Here a finite datum and a decimal are rational numbers, powers have any exponent, and each operation is said to
be the one on these numbers.

## Contents
- `zpow_eq_div` — a power as a quotient of natural numbers.
- `Decimal.number`, `Binary64.amount`, `Binary64.number` — decimals and data as rational numbers.
- `compareScaled_eq` — comparing scaled numbers.
- `toInt?_eq_some_iff`, `belowOne_iff` — data without a fraction, and data below one.
-/

namespace StepForge

/-- A power is a quotient of two natural numbers, one of which is one. -/
theorem zpow_eq_div (b : ℕ) (q : ℤ) : (b : ℚ) ^ q = ((b ^ q.toNat : ℕ) : ℚ) / ((b ^ (-q).toNat : ℕ) : ℚ) := by
  rcases le_total 0 q with hq | hq
  · lift q to ℕ using hq
    have hneg : (-(q : ℤ)).toNat = 0 := by omega
    rw [hneg, Int.toNat_natCast, pow_zero, Nat.cast_one, div_one, zpow_natCast, Nat.cast_pow]
  · obtain ⟨k, rfl⟩ : ∃ k : ℕ, q = -(k : ℤ) := ⟨(-q).toNat, by omega⟩
    have hneg : (-(k : ℤ)).toNat = 0 := by omega
    rw [hneg, neg_neg, Int.toNat_natCast, pow_zero, Nat.cast_one, zpow_neg, zpow_natCast, Nat.cast_pow, one_div]

/-- The number that a decimal writes. -/
def Decimal.number (d : Decimal) : ℚ := d.digits * 10 ^ d.exponent

namespace Binary64

/-- The number that a finite datum stands for, without its sign. -/
def amount (x : Binary64) : ℚ := x.mantissa * 2 ^ x.scale

/-- The number that a finite datum stands for. -/
def number (x : Binary64) : ℚ := if x.negative then -x.amount else x.amount

theorem amount_nonneg (x : Binary64) : 0 ≤ x.amount := by
  unfold amount
  positivity

theorem two_zpow_pos (q : ℤ) : (0 : ℚ) < 2 ^ q := by positivity

theorem ten_zpow_pos (e : ℤ) : (0 : ℚ) < 10 ^ e := by positivity

/-- A power of ten without some of its factors. -/
theorem ten_zpow_split (k : ℕ) {i j : ℤ} (h : i = k + j) : (10 : ℚ) ^ i = 10 ^ k * 10 ^ j := by
  rw [h, zpow_add₀ (by norm_num), zpow_natCast]

/-- A power of two is twice the one before. -/
theorem two_zpow_pred (q : ℤ) : (2 : ℚ) ^ q = 2 * 2 ^ (q - 1) := by
  rw [← zpow_one_add₀ two_ne_zero, add_sub_cancel]

theorem not_isNaN {x : Binary64} (hx : x.isFinite = true) : x.isNaN = false := by
  have hexp : x.exponent.val ≠ 2047 := by simpa [isFinite] using hx
  simp [isNaN, hexp]

/-! ## Comparing -/

/-- Natural numbers are compared as the rational numbers that they are. -/
theorem compare_natCast (m n : ℕ) : compare (m : ℚ) (n : ℚ) = compare m n := by
  rcases lt_trichotomy m n with h | h | h
  · rw [compare_lt_iff_lt.2 h, compare_lt_iff_lt.2 (Nat.cast_lt.2 h)]
  · rw [compare_eq_iff_eq.2 h, compare_eq_iff_eq.2 (congrArg Nat.cast h)]
  · rw [compare_gt_iff_gt.2 h, compare_gt_iff_gt.2 (Nat.cast_lt.2 h)]

/-- A positive factor makes no difference to a comparison. -/
theorem compare_mul_right {a b c : ℚ} (hc : 0 < c) : compare (a * c) (b * c) = compare a b := by
  rcases lt_trichotomy a b with h | h | h
  · rw [compare_lt_iff_lt.2 h, compare_lt_iff_lt.2 (mul_lt_mul_of_pos_right h hc)]
  · rw [compare_eq_iff_eq.2 h, compare_eq_iff_eq.2 (congrArg (· * c) h)]
  · rw [compare_gt_iff_gt.2 h, compare_gt_iff_gt.2 (mul_lt_mul_of_pos_right h hc)]

/-- **Scaled numbers are compared** as the numbers that they are. -/
theorem compareScaled_eq (a : ℕ) (i : ℤ) (b : ℕ) (j : ℤ) :
    compareScaled a i b j = compare ((a : ℚ) * 10 ^ i) (b * 2 ^ j) := by
  have hten := zpow_eq_div 10 i
  have htwo := zpow_eq_div 2 j
  push_cast at hten htwo
  have hpos : (0 : ℚ) < 10 ^ (-i).toNat * 2 ^ (-j).toNat := by positivity
  rw [compareScaled, ← compare_natCast, ← compare_mul_right hpos (a := a * 10 ^ i), hten, htwo]
  push_cast [Nat.pow_eq]
  congr 1
  · field_simp
  · field_simp

/-! ## Data without a fraction -/

/-- A finite datum as a quotient of natural numbers. -/
theorem amount_eq_div (x : Binary64) :
    x.amount = ((x.mantissa * 2 ^ x.scale.toNat : ℕ) : ℚ) / ((2 ^ (-x.scale).toNat : ℕ) : ℚ) := by
  have htwo := zpow_eq_div 2 x.scale
  push_cast at htwo
  rw [amount, htwo]
  push_cast
  ring

/-- Only one of the powers by which a significand is scaled up and down is not one. -/
theorem scaled_up_or_down (q : ℤ) : 2 ^ q.toNat = 1 ∨ 2 ^ (-q).toNat = 1 := by
  rcases le_total 0 q with hq | hq
  · exact Or.inr (by rw [Int.toNat_of_nonpos (by omega), pow_zero])
  · exact Or.inl (by rw [Int.toNat_of_nonpos hq, pow_zero])

/-- The significand can be scaled without a remainder exactly if the amount is a natural number. -/
theorem amount_eq_natCast_iff (x : Binary64) (n : ℕ) :
    x.amount = n ↔ x.mantissa % 2 ^ (-x.scale).toNat = 0 ∧
      x.mantissa / 2 ^ (-x.scale).toNat * 2 ^ x.scale.toNat = n := by
  have hpos : 0 < 2 ^ (-x.scale).toNat := by positivity
  have hne : ((2 ^ (-x.scale).toNat : ℕ) : ℚ) ≠ 0 := by positivity
  rw [amount_eq_div, div_eq_iff hne, ← Nat.cast_mul, Nat.cast_inj]
  rcases scaled_up_or_down x.scale with hup | hdown
  · rw [hup, Nat.mul_one, Nat.mul_one]
    constructor
    · intro h
      rw [h]
      exact ⟨Nat.mul_mod_left n _, Nat.mul_div_cancel n hpos⟩
    · rintro ⟨hmod, hdiv⟩
      rw [← hdiv, Nat.div_mul_cancel (Nat.dvd_of_mod_eq_zero hmod)]
  · simp [hdown, Nat.mod_one]

/-- A natural number with the sign of a datum. -/
theorem number_of_amount {x : Binary64} {n : ℕ} (h : x.amount = n) :
    x.number = ((if x.negative then -(n : ℤ) else n : ℤ) : ℚ) := by
  rw [number, h]
  split
  · rw [Int.cast_neg, Int.cast_natCast]
  · rw [Int.cast_natCast]

theorem abs_number (x : Binary64) : |x.number| = x.amount := by
  rw [number]
  split
  · rw [abs_neg, abs_of_nonneg x.amount_nonneg]
  · exact abs_of_nonneg x.amount_nonneg

/-- **A datum is an integer** exactly if it is finite and its number is one. -/
theorem toInt?_eq_some_iff {x : Binary64} {n : ℤ} : x.toInt? = some n ↔ x.isFinite = true ∧ x.number = n := by
  by_cases hfinite : x.isFinite = true
  · rw [toInt?, if_pos hfinite]
    simp only [hfinite, true_and, Nat.pow_eq]
    constructor
    · intro h
      split at h
      · next hmod =>
          rw [number_of_amount ((amount_eq_natCast_iff x _).2 ⟨hmod, rfl⟩), Option.some.inj h]
      · cases h
    · intro h
      -- An integer of either sign is a natural number without it.
      have hnat : x.amount = n.natAbs := by
        rw [← abs_number, h, Nat.cast_natAbs, Int.cast_abs]
      obtain ⟨hmod, hdiv⟩ := (amount_eq_natCast_iff x _).1 hnat
      rw [number_of_amount hnat] at h
      rw [if_pos hmod, hdiv, Int.cast_injective h]
  · rw [toInt?, if_neg hfinite]
    simp [hfinite]

/-! ## Data below one -/

/-- The significand is below the fifty-third power of two. -/
theorem mantissa_lt (x : Binary64) : x.mantissa < 2 * fractionCount := by
  have hfraction := x.fraction.isLt
  unfold mantissa
  split
  · omega
  · omega

/-- A datum that is not subnormal has a leading one. -/
theorem fractionCount_le_mantissa {x : Binary64} (h : x.exponent.val ≠ 0) : fractionCount ≤ x.mantissa := by
  unfold mantissa
  rw [if_neg h]
  exact Nat.le_add_right _ _

theorem amount_lt (x : Binary64) : x.amount < 2 ^ (x.scale + 53) := by
  have hm : (x.mantissa : ℚ) < 2 ^ (53 : ℤ) := by
    have hnat : x.mantissa < 2 ^ 53 := x.mantissa_lt
    exact_mod_cast hnat
  rw [amount, zpow_add₀ two_ne_zero, mul_comm]
  exact mul_lt_mul_of_pos_left hm (two_zpow_pos _)

theorem le_amount {x : Binary64} (h : x.exponent.val ≠ 0) : 2 ^ (x.scale + 52) ≤ x.amount := by
  have hm : (2 : ℚ) ^ (52 : ℤ) ≤ x.mantissa := by
    have hnat : 2 ^ 52 ≤ x.mantissa := fractionCount_le_mantissa h
    exact_mod_cast hnat
  rw [amount, zpow_add₀ two_ne_zero, mul_comm]
  exact mul_le_mul_of_nonneg_right hm (two_zpow_pos _).le

theorem amount_lt_one_iff (x : Binary64) : x.amount < 1 ↔ x.exponent.val < 1023 := by
  have hone : (1 : ℚ) = 2 ^ (0 : ℤ) := (zpow_zero 2).symm
  constructor
  · intro h
    by_contra hexp
    have hscale : 0 ≤ x.scale + 52 := by
      unfold scale
      omega
    have hle : (1 : ℚ) ≤ 2 ^ (x.scale + 52) := by
      rw [hone]
      exact zpow_le_zpow_right₀ one_le_two hscale
    exact absurd h (not_lt.2 (hle.trans (le_amount (by omega))))
  · intro h
    have hscale : x.scale + 53 ≤ 0 := by
      unfold scale
      omega
    rw [hone]
    exact x.amount_lt.trans_le (zpow_le_zpow_right₀ one_le_two hscale)

/-- **A finite datum is below one** exactly if its number is. -/
theorem belowOne_iff {x : Binary64} (hfinite : x.isFinite = true) : x.belowOne = true ↔ x.number < 1 := by
  have hpositive := x.amount_nonneg
  unfold belowOne number
  rw [not_isNaN hfinite]
  cases hneg : x.negative with
  | true =>
      simp only [Bool.not_false, Bool.true_or, Bool.and_self, true_iff, if_true]
      linarith
  | false => simpa using x.amount_lt_one_iff.symm

end Binary64
end StepForge
