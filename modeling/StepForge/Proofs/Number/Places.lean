import Mathlib.Data.Nat.Log
import StepForge.Proofs.Number.Digits

/-!
# `StepForge.Proofs.Number.Places` — where the digits of a datum stand

The digits of a datum need not be those of its number, yet they tell the same about it where a layout asks: a datum
without a fraction has no digit behind the point and one with a fraction has, and powers of ten separate the decimals
as they separate the data, as far as the datum nearest to the power is not below it.

## Contents
- `IsDigits.shortest_eq` — the digits of a datum and its shortest decimal.
- `IsDigits.ten_zpow_le`, `IsDigits.point_le_iff` — powers of ten.
- `IsDigits.whole`, `IsDigits.fraction` — digits behind the point.
- `exists_amount_eq`, `IsDigits.eq_amount` — small natural numbers are data, and these data are their decimals.
-/

namespace StepForge

theorem exists_hasDigits {N : ℕ} (h : 0 < N) : ∃ k, HasDigits N k := by
  refine ⟨Nat.log 10 N + 1, Nat.succ_pos _, ?_, ?_⟩
  · exact Nat.pow_log_le_self 10 h.ne'
  · exact Nat.lt_pow_succ_log_self (by decide) N

namespace Binary64

variable {x y : Binary64} {s k : ℕ} {n : ℤ}

/-- **The shortest decimal** of a datum is the one with its digits. -/
theorem IsDigits.shortest_eq (h : x.IsDigits s k n) (hx : x.isFinite = true) (hm : 0 < x.mantissa) :
    x.shortest = ⟨s, n - k⟩ := by
  obtain ⟨j, hj⟩ := isDigits_shortest hx hm
  obtain ⟨hs, hk, hn⟩ := h.unique hj hx hm
  rw [hn, hk, hs]
  simp

/-! ## Powers of ten -/

/-- A power of ten below a datum is below its digits: it has one digit and would be nearer. -/
theorem IsDigits.ten_zpow_le (h : x.IsDigits s k n) (hx : x.isFinite = true) (hm : 0 < x.mantissa) {j : ℤ}
    (hle : (10 : ℚ) ^ j ≤ x.amount) : (10 : ℚ) ^ j ≤ s * 10 ^ (n - k) := by
  by_contra hgt
  have hlt := not_le.1 hgt
  have hpower := ((isNearest_iff_reads hx hm).1 h.reads).convex x.reads_self hlt.le hle
  have hone : HasDigits 1 1 := ⟨Nat.one_pos, by norm_num, by norm_num⟩
  have heq : ((1 : ℕ) : ℚ) * 10 ^ (j + 1 - (1 : ℕ)) = 10 ^ j := by
    rw [Nat.cast_one, one_mul, Nat.cast_one, add_sub_cancel_right]
  have hread : x.IsNearest (((1 : ℕ) : ℚ) * 10 ^ (j + 1 - (1 : ℕ))) := by
    rw [heq]
    exact (isNearest_iff_reads hx hm).2 hpower
  obtain rfl : k = 1 := by
    have hfew := h.fewest 1 1 (j + 1) hone hread
    have hpos := h.digits.pos
    omega
  have hnear := h.nearest 1 (j + 1) hone hread
  rw [heq, abs_sub_of_le hle, abs_sub_of_le (hlt.le.trans hle)] at hnear
  linarith

/-- **A power of ten separates** the points of data as it separates the data, if the datum nearest to it is not below
it. -/
theorem IsDigits.point_le_iff (h : x.IsDigits s k n) (hx : x.isFinite = true) (hm : 0 < x.mantissa) {j : ℤ}
    (hlow : y.amount - y.gapBelow / 2 < 10 ^ j) (hhigh : (10 : ℚ) ^ j ≤ y.amount) (hy : y.isFinite = true) :
    n ≤ j ↔ x.amount < 10 ^ j := by
  rw [← lt_ten_zpow_iff h.digits]
  constructor
  · intro hlt
    by_contra hge
    exact absurd hlt (not_lt.2 (h.ten_zpow_le hx hm (not_lt.1 hge)))
  · -- The power would be read as the datum below it, and the one above it is nearer.
    intro hlt
    by_contra hge
    have hpower := x.reads_self.convex ((isNearest_iff_reads hx hm).1 h.reads) hlt.le (not_lt.1 hge)
    have hless : x.amount < y.amount := hlt.trans_le hhigh
    have hgap := le_sub_gapBelow hx hless
    have hnear := (isNearest_iff_reads hx hm).2 hpower _ (Or.inr ⟨y, hy, rfl⟩) hless.ne'
    rw [abs_sub_of_ge hlt.le, abs_sub_of_le hhigh] at hnear
    rcases hnear with hnear | ⟨hnear, -⟩
    · linarith
    · linarith

/-! ## Digits behind the point -/

/-- **A datum without a fraction** has no digit behind the point. -/
theorem IsDigits.whole (h : x.IsDigits s k n) (hx : x.isFinite = true) (hm : 0 < x.mantissa) {N : ℕ}
    (hN : x.amount = N) : (k : ℤ) ≤ n := by
  -- The number itself is read, so there are not more digits than it has, and its first one is not further left.
  obtain ⟨j, hj⟩ := exists_hasDigits (pos_of_amount_eq hm hN)
  have heq : (N : ℚ) * 10 ^ ((j : ℤ) - j) = x.amount := by rw [sub_self, zpow_zero, mul_one, hN]
  have hread : x.IsNearest ((N : ℚ) * 10 ^ ((j : ℤ) - j)) := by
    rw [heq]
    exact (isNearest_iff_reads hx hm).2 x.reads_self
  have hfew := h.fewest N j j hj hread
  have hle : (10 : ℚ) ^ ((j : ℤ) - 1) ≤ x.amount := by
    rw [← heq]
    exact (bounds_of_hasDigits hj j).1
  have hpoint := (lt_ten_zpow_iff h.digits n _).not.1 (not_lt.2 (h.ten_zpow_le hx hm hle))
  omega

/-- **A natural number is read** as itself, where data are not further apart than natural numbers. -/
theorem amount_eq_of_reads (hscale : x.scale ≤ 0) {N : ℕ} (h : x.Reads N) : x.amount = N := by
  have hpos := two_zpow_pos x.scale
  have hgap := x.gapBelow_le
  -- Both are multiples of the last place, and less than one apart.
  obtain ⟨i, hi⟩ : ∃ i : ℕ, (N : ℚ) = i * 2 ^ x.scale := by
    refine ⟨N * 2 ^ (-x.scale).toNat, ?_⟩
    push_cast
    rw [mul_assoc, ← zpow_natCast, ← zpow_add₀ two_ne_zero, Int.toNat_of_nonneg (by omega), neg_add_cancel, zpow_zero,
      mul_one]
  rw [hi] at h ⊢
  rcases lt_trichotomy ((i : ℚ) * 2 ^ x.scale) x.amount with hlt | heq | hgt
  · have hstep := add_le_of_mul_lt hpos hlt
    rw [← amount] at hstep
    rcases h.1 with hlow | ⟨hlow, -⟩
    · linarith
    · linarith
  · exact heq.symm
  · have hstep := add_le_of_mul_lt hpos hgt
    rw [← amount] at hstep
    rcases h.2 with hhigh | ⟨hhigh, -⟩
    · linarith
    · linarith

/-- A datum with a fraction is of a negative scale. -/
theorem scale_neg_of_fraction (hfraction : ∀ N : ℕ, x.amount ≠ N) : x.scale < 0 := by
  by_contra hscale
  refine hfraction (x.mantissa * 2 ^ x.scale.toNat) ?_
  rw [amount]
  push_cast
  rw [← zpow_natCast, Int.toNat_of_nonneg (not_lt.1 hscale)]

/-- A decimal without digits behind the point is a natural number. -/
theorem number_of_point_le (h : (k : ℤ) ≤ n) :
    (s : ℚ) * 10 ^ (n - k) = ((s * 10 ^ (n - k).toNat : ℕ) : ℚ) := by
  push_cast
  rw [← zpow_natCast, Int.toNat_of_nonneg (by omega)]

/-- **A datum with a fraction** has a digit behind the point, and at most sixteen before it. -/
theorem IsDigits.fraction (h : x.IsDigits s k n) (hx : x.isFinite = true) (hm : 0 < x.mantissa)
    (hfraction : ∀ N : ℕ, x.amount ≠ N) : n < k ∧ n ≤ 16 := by
  have hscale := scale_neg_of_fraction hfraction
  have hreads := (isNearest_iff_reads hx hm).1 h.reads
  constructor
  · by_contra hle
    rw [number_of_point_le (not_lt.1 hle)] at hreads
    exact hfraction _ (amount_eq_of_reads hscale.le hreads)
  · have hpos := two_zpow_pos x.scale
    have hmantissa : (x.mantissa : ℚ) + 1 ≤ 2 ^ (53 : ℤ) := by
      have hnat : x.mantissa + 1 ≤ 2 * fractionCount := x.mantissa_lt
      exact_mod_cast hnat
    have htop : x.amount + 2 ^ x.scale ≤ 2 ^ (53 + x.scale) := by
      rw [zpow_add₀ two_ne_zero, amount]
      linarith [mul_le_mul_of_nonneg_right hmantissa hpos.le]
    have hsmall : (2 : ℚ) ^ (53 + x.scale) ≤ 2 ^ (53 : ℤ) := zpow_le_zpow_right₀ one_le_two (by omega)
    have hten : (2 : ℚ) ^ (53 : ℤ) < 10 ^ (16 : ℤ) := by norm_num
    rw [← lt_ten_zpow_iff h.digits]
    rcases hreads.2 with hhigh | ⟨hhigh, -⟩
    · linarith
    · linarith

/-- **A natural number below the fifty-third power of two** is the amount of a datum. -/
theorem exists_amount_eq {N : ℕ} (hN : N < 2 ^ 53) : ∃ y : Binary64, y.isFinite = true ∧ y.amount = N := by
  rcases Nat.eq_zero_or_pos N with rfl | hpos
  · refine ⟨zero false, rfl, ?_⟩
    simp [amount, mantissa, zero]
  · -- Shifted until it has fifty-three digits, the number is a significand.
    have hlog : Nat.log 2 N ≤ 52 := Nat.lt_succ_iff.1 (Nat.log_lt_of_lt_pow hpos.ne' hN)
    obtain ⟨i, hi⟩ : ∃ i, Nat.log 2 N + i = 52 := ⟨52 - Nat.log 2 N, by omega⟩
    have hlow : fractionCount ≤ N * 2 ^ i := by
      calc fractionCount = 2 ^ (Nat.log 2 N + i) := by
            rw [hi]
            rfl
        _ = 2 ^ Nat.log 2 N * 2 ^ i := pow_add _ _ _
        _ ≤ N * 2 ^ i := Nat.mul_le_mul_right _ (Nat.pow_log_le_self 2 hpos.ne')
    have hhigh : N * 2 ^ i < 2 * fractionCount := by
      calc N * 2 ^ i < 2 ^ (Nat.log 2 N + 1) * 2 ^ i :=
            Nat.mul_lt_mul_of_pos_right (Nat.lt_pow_succ_log_self (by decide) _) (Nat.two_pow_pos i)
        _ = 2 ^ (Nat.log 2 N + i + 1) := by rw [← pow_add, Nat.add_right_comm]
        _ = 2 * fractionCount := by
            rw [hi]
            rfl
    obtain ⟨y, hy, hamount⟩ := exists_datum (q := -(i : ℤ)) hhigh (by omega) (by omega) (Or.inr hlow)
    refine ⟨y, hy, ?_⟩
    rw [hamount]
    push_cast
    rw [mul_assoc, ← zpow_natCast, ← zpow_add₀ two_ne_zero, add_neg_cancel, zpow_zero, mul_one]

/-- **A datum without a fraction** below the fifty-third power of two is its decimal. -/
theorem IsDigits.eq_amount (h : x.IsDigits s k n) (hx : x.isFinite = true) (hm : 0 < x.mantissa) {N : ℕ}
    (hN : x.amount = N) (hsmall : N < 2 ^ 53) : x.amount = s * 10 ^ (n - k) := by
  have hscale : x.scale ≤ 0 := by
    by_contra hmore
    have hnormal := normal_of_scale (x := x) (by omega)
    have hlow := le_amount hnormal
    have hcast : (N : ℚ) < 2 ^ (53 : ℤ) := by exact_mod_cast hsmall
    rw [hN] at hlow
    have hpoint := (zpow_lt_zpow_iff_right₀ (one_lt_two : (1 : ℚ) < 2)).1 (hlow.trans_lt hcast)
    omega
  have hreads := (isNearest_iff_reads hx hm).1 h.reads
  rw [number_of_point_le (h.whole hx hm hN)] at hreads ⊢
  exact amount_eq_of_reads hscale hreads

end Binary64
end StepForge
