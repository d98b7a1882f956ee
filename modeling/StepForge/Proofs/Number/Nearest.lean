import StepForge.Proofs.Number.Exact

/-!
# `StepForge.Proofs.Number.Nearest` — the datum nearest to a number

A number is read as the finite datum that is nearest to it, and of two such data as the one with an even significand.
The power of two behind the largest datum stands with them as if it were one more. The numbers that are read as a
positive datum lie between the midpoints to its neighbours, and `readsBack` asks whether a decimal does.

## Contents
- `Candidate`, `IsNearest` — the amounts of data, and the datum as which a number is read.
- `exists_datum` — data of any significand and scale.
- `add_gap_le`, `le_sub_gapBelow` — neighbours are not nearer than the last place.
- `Reads`, `isNearest_iff_reads`, `readsBack_iff` — numbers between the midpoints.
- `reads_self`, `Reads.convex` — what is read as a datum.
-/

namespace StepForge

namespace Binary64

/-- The amounts that a number can be nearest to: those of finite data, and the power of two behind them. -/
def Candidate (c : ℚ) : Prop := c = 2 ^ (1024 : ℤ) ∨ ∃ y : Binary64, y.isFinite = true ∧ y.amount = c

/-- **A number is read as a datum**: no other amount is nearer to it, and the significand is even if another one is as
near. -/
def IsNearest (x : Binary64) (q : ℚ) : Prop :=
  ∀ c, Candidate c → c ≠ x.amount → |q - x.amount| < |q - c| ∨ |q - x.amount| = |q - c| ∧ x.mantissa % 2 = 0

variable {x y : Binary64}

/-! ## Data -/

theorem exponent_le (h : x.isFinite = true) : x.exponent.val ≤ 2046 := by
  have hexp : x.exponent.val ≠ 2047 := by simpa [isFinite] using h
  have hlt := x.exponent.isLt
  omega

theorem scale_bounds (h : x.isFinite = true) : -1074 ≤ x.scale ∧ x.scale ≤ 971 := by
  have hexp := exponent_le h
  unfold scale
  omega

/-- A datum that is not of the least scale has a leading one. -/
theorem normal_of_scale (h : -1074 < x.scale) : x.exponent.val ≠ 0 := by
  unfold scale at h
  omega

/-- **Data have all significands and scales** between the bounds, but none without a leading one above the least
scale. -/
theorem exists_datum {m : ℕ} {q : ℤ} (hm : m < 2 * fractionCount) (hlow : -1074 ≤ q) (hhigh : q ≤ 971)
    (hlead : q = -1074 ∨ fractionCount ≤ m) : ∃ y : Binary64, y.isFinite = true ∧ y.amount = m * 2 ^ q := by
  rcases Nat.lt_or_ge m fractionCount with hsub | hnormal
  · have hq : q = -1074 := hlead.resolve_right (Nat.not_le.2 hsub)
    refine ⟨⟨false, 0, ⟨m, hsub⟩⟩, rfl, ?_⟩
    rw [hq]
    rfl
  · refine ⟨⟨false, ⟨(q + 1075).toNat, by omega⟩, ⟨m - fractionCount, by omega⟩⟩, ?_, ?_⟩
    · have hne : (q + 1075).toNat ≠ 2047 := by omega
      simpa [isFinite] using hne
    · have hzero : (q + 1075).toNat ≠ 0 := by omega
      have hscale : ((max (q + 1075).toNat 1 : ℕ) : ℤ) - 1075 = q := by omega
      have hmantissa : fractionCount + (m - fractionCount) = m := by omega
      unfold amount mantissa scale
      rw [if_neg hzero, hscale, hmantissa]

/-- The significand over a smaller scale. -/
theorem amount_eq_mul (x : Binary64) {q : ℤ} (h : q ≤ x.scale) : ∃ k : ℕ, x.amount = k * 2 ^ q := by
  obtain ⟨j, hj⟩ : ∃ j : ℕ, x.scale = j + q := ⟨(x.scale - q).toNat, by omega⟩
  refine ⟨x.mantissa * 2 ^ j, ?_⟩
  rw [amount, hj, zpow_add₀ two_ne_zero, zpow_natCast]
  push_cast
  ring

theorem amount_lt_of_scale_lt (h : y.scale < x.scale) : y.amount < 2 ^ (x.scale + 52) := by
  refine y.amount_lt.trans_le (zpow_le_zpow_right₀ one_le_two ?_)
  omega

/-! ## Neighbours -/

/-- How far away the next datum below is. -/
def gapBelow (x : Binary64) : ℚ := if x.narrowBelow then 2 ^ (x.scale - 1) else 2 ^ x.scale

/-- The scale changes below the least significand with a leading one. -/
theorem mantissa_of_narrowBelow (h : x.narrowBelow = true) : x.mantissa = fractionCount := by
  obtain ⟨hfraction, hexp⟩ : x.fraction.val = 0 ∧ 1 < x.exponent.val := by simpa [narrowBelow] using h
  rw [mantissa, if_neg (by omega), hfraction]

theorem gapBelow_pos (x : Binary64) : 0 < x.gapBelow := by
  unfold gapBelow
  split
  · exact two_zpow_pos _
  · exact two_zpow_pos _

theorem gapBelow_le (x : Binary64) : x.gapBelow ≤ 2 ^ x.scale := by
  unfold gapBelow
  split
  · exact zpow_le_zpow_right₀ one_le_two (by omega)
  · exact le_refl _

/-- Two multiples of a power of two are that power apart. -/
theorem add_le_of_mul_lt {i j : ℕ} {p : ℚ} (hp : 0 < p) (h : (i : ℚ) * p < j * p) : (i : ℚ) * p + p ≤ j * p := by
  have hij : i + 1 ≤ j := by exact_mod_cast lt_of_mul_lt_mul_right h hp.le
  have hcast : (i : ℚ) + 1 ≤ j := by exact_mod_cast hij
  nlinarith

/-- **The next datum above** is at least the last place away. -/
theorem add_gap_le (hy : y.isFinite = true) (h : x.amount < y.amount) :
    x.amount + 2 ^ x.scale ≤ y.amount := by
  rcases le_or_gt x.scale y.scale with hle | hlt
  · obtain ⟨k, hk⟩ := y.amount_eq_mul hle
    rw [hk] at h ⊢
    exact add_le_of_mul_lt (two_zpow_pos _) h
  · -- A datum of a smaller scale is below all that have a leading one.
    have hnormal := normal_of_scale (x := x) (by have := scale_bounds hy; omega)
    exact absurd ((amount_lt_of_scale_lt hlt).trans_le (le_amount hnormal)) (not_lt.2 h.le)

/-- Below the least significand of a scale the data are of the scale before, up to its largest significand. -/
theorem le_sub_of_narrow (hnarrow : x.narrowBelow = true) (h : y.scale < x.scale) :
    y.amount ≤ x.amount - 2 ^ (x.scale - 1) := by
  have hmantissa : (y.mantissa : ℚ) ≤ 2 * fractionCount - 1 := by
    have hnat : y.mantissa + 1 ≤ 2 * fractionCount := y.mantissa_lt
    have hcast : (y.mantissa : ℚ) + 1 ≤ 2 * fractionCount := by exact_mod_cast hnat
    linarith
  have hpow : (2 : ℚ) ^ y.scale ≤ 2 ^ (x.scale - 1) := zpow_le_zpow_right₀ one_le_two (by omega)
  rw [amount, amount, mantissa_of_narrowBelow hnarrow, two_zpow_pred x.scale]
  push_cast
  calc (y.mantissa : ℚ) * 2 ^ y.scale ≤ (2 * fractionCount - 1) * 2 ^ (x.scale - 1) := by
        apply mul_le_mul hmantissa hpow (two_zpow_pos _).le
        norm_num
    _ = fractionCount * (2 * 2 ^ (x.scale - 1)) - 2 ^ (x.scale - 1) := by ring

/-- Below any other significand there is another one of the same scale, and it is above all data of smaller ones. -/
theorem le_sub_of_wide (hnormal : x.exponent.val ≠ 0) (hfraction : x.fraction.val ≠ 0) (h : y.scale < x.scale) :
    y.amount ≤ x.amount - 2 ^ x.scale := by
  have hmore : (fractionCount : ℚ) + 1 ≤ x.mantissa := by
    have hnat : fractionCount + 1 ≤ x.mantissa := by
      rw [mantissa, if_neg hnormal]
      omega
    exact_mod_cast hnat
  have htop : (2 : ℚ) ^ (x.scale + 52) = fractionCount * 2 ^ x.scale := by
    rw [zpow_add₀ two_ne_zero, mul_comm]
    norm_num
  have hbelow := amount_lt_of_scale_lt h
  have hstep := mul_le_mul_of_nonneg_right hmore (two_zpow_pos x.scale).le
  rw [htop] at hbelow
  rw [amount.eq_def x]
  linarith

/-- **The next datum below** is at least that gap away. -/
theorem le_sub_gapBelow (hy : y.isFinite = true) (h : y.amount < x.amount) :
    y.amount ≤ x.amount - x.gapBelow := by
  rcases le_or_gt x.scale y.scale with hle | hlt
  · obtain ⟨k, hk⟩ := y.amount_eq_mul hle
    have hgap := x.gapBelow_le
    rw [hk] at h ⊢
    have hstep := add_le_of_mul_lt (two_zpow_pos _) h
    rw [amount]
    linarith
  · have hlow := scale_bounds hy
    have hnormal := normal_of_scale (x := x) (by omega)
    have hone : 1 < x.exponent.val := by
      unfold scale at hlt hlow
      omega
    by_cases hfraction : x.fraction.val = 0
    · have hnarrow : x.narrowBelow = true := by simp [narrowBelow, hfraction, hone]
      rw [gapBelow, if_pos hnarrow]
      exact le_sub_of_narrow hnarrow hlt
    · have hwide : x.narrowBelow = false := by simp [narrowBelow, hfraction]
      rw [gapBelow, hwide, if_neg Bool.false_ne_true]
      exact le_sub_of_wide hnormal hfraction hlt

/-- Nothing but the power of two behind them is above all data. -/
theorem add_scale_le (hx : x.isFinite = true) : x.amount + 2 ^ x.scale ≤ 2 ^ (1024 : ℤ) := by
  have hnat : x.mantissa + 1 ≤ 2 * fractionCount := x.mantissa_lt
  have hcast : (x.mantissa : ℚ) + 1 ≤ 2 ^ (53 : ℤ) := by exact_mod_cast hnat
  have hpow : (2 : ℚ) ^ (53 + x.scale) ≤ 2 ^ (1024 : ℤ) :=
    zpow_le_zpow_right₀ one_le_two (by have := scale_bounds hx; omega)
  have hmul := mul_le_mul_of_nonneg_right hcast (two_zpow_pos x.scale).le
  rw [zpow_add₀ two_ne_zero] at hpow
  rw [amount]
  linarith

theorem candidate_above (hx : x.isFinite = true) : Candidate (x.amount + 2 ^ x.scale) := by
  obtain ⟨hlow, hhigh⟩ := scale_bounds hx
  have hlt := x.mantissa_lt
  have hlead : x.scale = -1074 ∨ fractionCount ≤ x.mantissa := by
    rcases eq_or_lt_of_le hlow with heq | hmore
    · exact Or.inl heq.symm
    · exact Or.inr (fractionCount_le_mantissa (normal_of_scale hmore))
  have hsum : x.amount + 2 ^ x.scale = ((x.mantissa + 1 : ℕ) : ℚ) * 2 ^ x.scale := by
    rw [amount]
    push_cast
    ring
  rw [hsum]
  rcases Nat.lt_or_ge (x.mantissa + 1) (2 * fractionCount) with hsame | hnext
  · exact Or.inr (exists_datum hsame hlow hhigh (hlead.imp_right fun h => by omega))
  · -- One more than the largest significand is the least one of the next scale.
    have hm : x.mantissa + 1 = 2 * fractionCount := by omega
    have hshift : ((2 * fractionCount : ℕ) : ℚ) * 2 ^ x.scale = (fractionCount : ℕ) * 2 ^ (x.scale + 1) := by
      rw [zpow_add_one₀ two_ne_zero]
      push_cast
      ring
    rw [hm, hshift]
    rcases eq_or_lt_of_le hhigh with hlast | hmore
    · have hcount : ((fractionCount : ℕ) : ℚ) = 2 ^ (52 : ℤ) := by norm_num
      refine Or.inl ?_
      rw [hlast, hcount, ← zpow_add₀ two_ne_zero]
      rfl
    · exact Or.inr (exists_datum (by norm_num) (by omega) (by omega) (Or.inr (le_refl _)))

theorem candidate_below (hx : x.isFinite = true) (hm : 0 < x.mantissa) : Candidate (x.amount - x.gapBelow) := by
  obtain ⟨hlow, hhigh⟩ := scale_bounds hx
  have hlt := x.mantissa_lt
  by_cases hnarrow : x.narrowBelow = true
  · have hgap : x.gapBelow = 2 ^ (x.scale - 1) := by rw [gapBelow, if_pos hnarrow]
    have hmantissa := mantissa_of_narrowBelow hnarrow
    obtain ⟨-, hexp⟩ : x.fraction.val = 0 ∧ 1 < x.exponent.val := by simpa [narrowBelow] using hnarrow
    have hscale : -1074 ≤ x.scale - 1 := by
      unfold scale
      omega
    have hdatum := exists_datum (m := 2 * fractionCount - 1) (q := x.scale - 1) (by norm_num) hscale (by omega)
      (Or.inr (by norm_num))
    have hdiff : x.amount - x.gapBelow = ((2 * fractionCount - 1 : ℕ) : ℚ) * 2 ^ (x.scale - 1) := by
      rw [hgap, amount, hmantissa, two_zpow_pred x.scale]
      norm_num
      ring
    rw [hdiff]
    exact Or.inr hdatum
  · have hgap : x.gapBelow = 2 ^ x.scale := by rw [gapBelow, if_neg hnarrow]
    have hlead : x.scale = -1074 ∨ fractionCount ≤ x.mantissa - 1 := by
      rcases eq_or_lt_of_le hlow with heq | hmore
      · exact Or.inl heq.symm
      · refine Or.inr ?_
        have hexp := normal_of_scale hmore
        have hone : 1 < x.exponent.val := by
          unfold scale at hmore
          omega
        have hfraction : x.fraction.val ≠ 0 := fun hzero => hnarrow (by simp [narrowBelow, hzero, hone])
        rw [mantissa, if_neg hexp]
        omega
    have hdiff : x.amount - x.gapBelow = ((x.mantissa - 1 : ℕ) : ℚ) * 2 ^ x.scale := by
      rw [hgap, amount, Nat.cast_sub hm]
      push_cast
      ring
    rw [hdiff]
    exact Or.inr (exists_datum (by omega) hlow hhigh hlead)

/-! ## Midpoints -/

/-- Of two numbers the lower one is nearer below their midpoint. -/
theorem nearer_iff {a b q : ℚ} (h : a < b) : |q - a| < |q - b| ↔ q < (a + b) / 2 := by
  rw [← sq_lt_sq]
  constructor
  · intro hlt
    nlinarith
  · intro hlt
    nlinarith

theorem nearer_iff' {a b q : ℚ} (h : b < a) : |q - a| < |q - b| ↔ (a + b) / 2 < q := by
  rw [← sq_lt_sq]
  constructor
  · intro hlt
    nlinarith
  · intro hlt
    nlinarith

theorem as_near_iff {a b q : ℚ} (h : a ≠ b) : |q - a| = |q - b| ↔ q = (a + b) / 2 := by
  rw [← sq_eq_sq_iff_abs_eq_abs]
  have hdiff : a - b ≠ 0 := sub_ne_zero.2 h
  constructor
  · intro heq
    have hzero : (a - b) * (2 * q - (a + b)) = 0 := by linarith
    have hsum := (mul_eq_zero.1 hzero).resolve_left hdiff
    linarith
  · rintro rfl
    ring

/-- The numbers between the midpoints to the neighbours, which are read if the significand is even. -/
def Reads (x : Binary64) (q : ℚ) : Prop :=
  (x.amount - x.gapBelow / 2 < q ∨ q = x.amount - x.gapBelow / 2 ∧ x.mantissa % 2 = 0) ∧
    (q < x.amount + 2 ^ x.scale / 2 ∨ q = x.amount + 2 ^ x.scale / 2 ∧ x.mantissa % 2 = 0)

/-- **The numbers that are read as a positive datum** are those between the midpoints to its neighbours. -/
theorem isNearest_iff_reads (hx : x.isFinite = true) (hm : 0 < x.mantissa) {q : ℚ} :
    x.IsNearest q ↔ x.Reads q := by
  have hscale := two_zpow_pos x.scale
  have hgap := x.gapBelow_pos
  constructor
  · intro h
    constructor
    · have hbelow : x.amount - x.gapBelow < x.amount := by linarith
      have hmid : (x.amount + (x.amount - x.gapBelow)) / 2 = x.amount - x.gapBelow / 2 := by ring
      have hnear := h _ (candidate_below hx hm) hbelow.ne
      rwa [nearer_iff' hbelow, as_near_iff hbelow.ne', hmid] at hnear
    · have habove : x.amount < x.amount + 2 ^ x.scale := by linarith
      have hmid : (x.amount + (x.amount + 2 ^ x.scale)) / 2 = x.amount + 2 ^ x.scale / 2 := by ring
      have hnear := h _ (candidate_above hx) habove.ne'
      rwa [nearer_iff habove, as_near_iff habove.ne, hmid] at hnear
  · rintro ⟨hlow, hhigh⟩ c hc hne
    rcases lt_or_gt_of_ne hne with hlt | hgt
    · have hdata : c ≤ x.amount - x.gapBelow := by
        rcases hc with rfl | ⟨y, hy, rfl⟩
        · exact absurd hlt (not_lt.2 ((le_add_of_nonneg_right hscale.le).trans (add_scale_le hx)))
        · exact le_sub_gapBelow hy hlt
      rw [nearer_iff' hlt, as_near_iff hne.symm]
      rcases hlow with hlow | ⟨hlow, heven⟩
      · exact Or.inl (by linarith)
      · rcases eq_or_lt_of_le hdata with heq | hmore
        · exact Or.inr ⟨by linarith, heven⟩
        · exact Or.inl (by linarith)
    · have hdata : x.amount + 2 ^ x.scale ≤ c := by
        rcases hc with rfl | ⟨y, hy, rfl⟩
        · exact add_scale_le hx
        · exact add_gap_le hy hgt
      rw [nearer_iff hgt, as_near_iff hne.symm]
      rcases hhigh with hhigh | ⟨hhigh, heven⟩
      · exact Or.inl (by linarith)
      · rcases eq_or_lt_of_le hdata with heq | hmore
        · exact Or.inr ⟨by linarith, heven⟩
        · exact Or.inl (by linarith)

/-- Between the midpoints, in quarters of the last place. -/
theorem reads_iff_quarters (hm : 0 < x.mantissa) {q : ℚ} :
    x.Reads q ↔
      (((if x.narrowBelow then 4 * x.mantissa - 1 else 4 * x.mantissa - 2 : ℕ) : ℚ) * 2 ^ (x.scale - 2) < q ∨
          q = ((if x.narrowBelow then 4 * x.mantissa - 1 else 4 * x.mantissa - 2 : ℕ) : ℚ) * 2 ^ (x.scale - 2) ∧
            x.mantissa % 2 = 0) ∧
        (q < ((4 * x.mantissa + 2 : ℕ) : ℚ) * 2 ^ (x.scale - 2) ∨
          q = ((4 * x.mantissa + 2 : ℕ) : ℚ) * 2 ^ (x.scale - 2) ∧ x.mantissa % 2 = 0) := by
  have hhalf : (2 : ℚ) ^ (x.scale - 1) = 2 * 2 ^ (x.scale - 2) := by
    rw [two_zpow_pred, sub_sub, one_add_one_eq_two]
  have hquarter : (2 : ℚ) ^ x.scale = 4 * 2 ^ (x.scale - 2) := by
    rw [two_zpow_pred, hhalf]
    ring
  have hlow : x.amount - x.gapBelow / 2 =
      ((if x.narrowBelow then 4 * x.mantissa - 1 else 4 * x.mantissa - 2 : ℕ) : ℚ) * 2 ^ (x.scale - 2) := by
    unfold gapBelow amount
    split
    · rw [Nat.cast_sub (by omega), hquarter, hhalf]
      push_cast
      ring
    · rw [Nat.cast_sub (by omega), hquarter]
      push_cast
      ring
  have hhigh : x.amount + 2 ^ x.scale / 2 = ((4 * x.mantissa + 2 : ℕ) : ℚ) * 2 ^ (x.scale - 2) := by
    rw [amount, hquarter]
    push_cast
    ring
  rw [Reads, hlow, hhigh]

/-- **A decimal reads back** exactly if its number is read as the datum. -/
theorem readsBack_iff (hm : 0 < x.mantissa) (d : Decimal) : x.readsBack d = true ↔ x.Reads d.number := by
  rw [reads_iff_quarters hm]
  unfold readsBack
  simp only [compareScaled_eq, Bool.and_eq_true, Bool.or_eq_true, beq_iff_eq, compare_gt_iff_gt, compare_lt_iff_lt,
    compare_eq_iff_eq]
  show (_ < d.number ∨ _ ∧ d.number = _) ∧ (d.number < _ ∨ _ ∧ d.number = _) ↔ _
  rw [and_comm (b := d.number = _), and_comm (b := d.number = _)]

/-! ## What is read -/

/-- A datum is read as itself. -/
theorem reads_self (x : Binary64) : x.Reads x.amount := by
  have hscale := two_zpow_pos x.scale
  have hgap := x.gapBelow_pos
  exact ⟨Or.inl (by linarith), Or.inl (by linarith)⟩

/-- **What lies between two numbers that are read** is read. -/
theorem Reads.convex {p q r : ℚ} (hp : x.Reads p) (hr : x.Reads r) (hpq : p ≤ q) (hqr : q ≤ r) : x.Reads q := by
  constructor
  · rcases hp.1 with hlow | ⟨hlow, heven⟩
    · exact Or.inl (by linarith)
    · rcases eq_or_lt_of_le hpq with heq | hlt
      · exact Or.inr ⟨by linarith, heven⟩
      · exact Or.inl (by linarith)
  · rcases hr.2 with hhigh | ⟨hhigh, heven⟩
    · exact Or.inl (by linarith)
    · rcases eq_or_lt_of_le hqr with heq | hlt
      · exact Or.inr ⟨by linarith, heven⟩
      · exact Or.inl (by linarith)

end Binary64
end StepForge
