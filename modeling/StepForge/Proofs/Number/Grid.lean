import StepForge.Proofs.Number.Nearest

/-!
# `StepForge.Proofs.Number.Grid` — decimals with a power of ten

The decimals with one power of ten form a grid. A datum lies between two of them, and if any decimal of the grid reads
back then one of these two does. The power of ten above a datum tells how many digits a decimal of a grid has.

## Contents
- `magnitude_spec` — the power of ten above a datum.
- `floorOver_spec` — the neighbours of a datum on a grid.
- `NearestOn`, `onGrid?_cases` — grids on which nothing reads back, and the nearest decimal that does.
- `exists_reads_seventeen` — seventeen digits suffice.
-/

namespace StepForge

namespace Binary64

variable {x : Binary64} {e : ℤ}

theorem amount_pos (hm : 0 < x.mantissa) : 0 < x.amount := by
  unfold amount
  have hcast : (0 : ℚ) < x.mantissa := by exact_mod_cast hm
  exact mul_pos hcast (two_zpow_pos _)

theorem pos_of_amount_eq (hm : 0 < x.mantissa) {N : ℕ} (hN : x.amount = N) : 0 < N := by
  have hamount := amount_pos hm
  rw [hN] at hamount
  exact_mod_cast hamount

/-! ## The power of ten above a datum -/

/-- A power of a smaller base is smaller, unless it is a quotient. -/
theorem zpow_le_zpow_base {b c : ℚ} (hb : 0 < b) (hbc : b ≤ c) {n : ℤ} (hn : 0 ≤ n) : b ^ n ≤ c ^ n := by
  lift n to ℕ using hn
  rw [zpow_natCast, zpow_natCast]
  exact pow_le_pow_left₀ hb.le hbc n

theorem zpow_le_zpow_base_of_nonpos {b c : ℚ} (hb : 0 < b) (hbc : b ≤ c) {n : ℤ} (hn : n ≤ 0) : c ^ n ≤ b ^ n := by
  obtain ⟨k, rfl⟩ : ∃ k : ℕ, n = -(k : ℤ) := ⟨(-n).toNat, by omega⟩
  rw [zpow_neg, zpow_neg, zpow_natCast, zpow_natCast]
  exact inv_anti₀ (pow_pos hb k) (pow_le_pow_left₀ hb.le hbc k)

/-- Powers are compared by their powers. -/
theorem zpow_le_of_scaled {b c : ℚ} (hb : 0 < b) (hc : 0 < c) {i j : ℤ}
    (h : b ^ (i * 4096) ≤ c ^ (j * 4096)) : b ^ i ≤ c ^ j := by
  have hnat : ((4096 : ℕ) : ℤ) = 4096 := rfl
  rw [← hnat, zpow_mul, zpow_mul, zpow_natCast, zpow_natCast] at h
  exact (pow_le_pow_iff_left₀ (zpow_pos hb i).le (zpow_pos hc j).le (by norm_num)).1 h

theorem ten_pow_le_two_pow : ((10 : ℚ) ^ (1233 : ℤ)) ≤ 2 ^ (4096 : ℤ) := by
  have hnat : 10 ^ 1233 ≤ 2 ^ 4096 := by decide +kernel
  exact_mod_cast hnat

theorem two_pow_le_ten_pow : ((2 : ℚ) ^ (4096 : ℤ)) ≤ 10 ^ (1234 : ℤ) := by
  have hnat : 2 ^ 4096 ≤ 10 ^ 1234 := by decide +kernel
  exact_mod_cast hnat

/-- **The estimate of a power of ten** from a power of two is not too high by more than one. -/
theorem estimate_low {bits k : ℤ} (hbits : -1074 ≤ bits) (hk : k * 4096 ≤ bits * 1233) :
    (10 : ℚ) ^ (k - 1) ≤ 2 ^ bits := by
  refine zpow_le_of_scaled (by norm_num) (by norm_num) ?_
  have htwo : (2 : ℚ) ^ (bits * 4096) = (2 ^ (4096 : ℤ)) ^ bits := by
    rw [mul_comm, zpow_mul]
  rw [htwo]
  -- The quotient of the two logarithms is between these fractions; which of them bounds depends on the sign.
  rcases le_total 0 bits with hpos | hneg
  · refine le_trans ?_ (zpow_le_zpow_base (ten_zpow_pos _) ten_pow_le_two_pow hpos)
    rw [← zpow_mul]
    exact zpow_le_zpow_right₀ (by norm_num) (by omega)
  · refine le_trans ?_ (zpow_le_zpow_base_of_nonpos (two_zpow_pos _) two_pow_le_ten_pow hneg)
    rw [← zpow_mul]
    exact zpow_le_zpow_right₀ (by norm_num) (by omega)

/-- **The estimate** is not too low by more than three. -/
theorem estimate_high {bits k : ℤ} (hbits : bits ≤ 1023) (hk : bits * 1233 < (k + 1) * 4096) :
    (2 : ℚ) ^ (bits + 1) ≤ 10 ^ (k + 3) := by
  refine zpow_le_of_scaled (by norm_num) (by norm_num) ?_
  have htwo : (2 : ℚ) ^ ((bits + 1) * 4096) = (2 ^ (4096 : ℤ)) ^ (bits + 1) := by
    rw [mul_comm, zpow_mul]
  rw [htwo]
  rcases le_total 0 (bits + 1) with hpos | hneg
  · refine le_trans (zpow_le_zpow_base (two_zpow_pos _) two_pow_le_ten_pow hpos) ?_
    rw [← zpow_mul]
    exact zpow_le_zpow_right₀ (by norm_num) (by omega)
  · refine le_trans (zpow_le_zpow_base_of_nonpos (ten_zpow_pos _) ten_pow_le_two_pow hneg) ?_
    rw [← zpow_mul]
    exact zpow_le_zpow_right₀ (by norm_num) (by omega)

/-- A search that begins low enough finds the least power of ten above a datum. -/
theorem magnitudeFrom_spec (fuel : ℕ) {k : ℤ} (hlow : (10 : ℚ) ^ (k - 1) ≤ x.amount)
    (hhigh : x.amount < 10 ^ (k + fuel)) :
    (10 : ℚ) ^ (magnitudeFrom x fuel k - 1) ≤ x.amount ∧ x.amount < 10 ^ magnitudeFrom x fuel k := by
  induction fuel generalizing k with
  | zero =>
      rw [Nat.cast_zero, add_zero] at hhigh
      exact ⟨hlow, hhigh⟩
  | succ fuel ih =>
      have hcompare : (compareScaled 1 k x.mantissa x.scale == .gt) = true ↔ x.amount < 10 ^ k := by
        rw [beq_iff_eq, compareScaled_eq, compare_gt_iff_gt, Nat.cast_one, one_mul]
        rfl
      unfold magnitudeFrom
      by_cases hlt : x.amount < 10 ^ k
      · rw [if_pos (hcompare.2 hlt)]
        exact ⟨hlow, hlt⟩
      · rw [if_neg fun h => hlt (hcompare.1 h)]
        refine ih ?_ ?_
        · rw [add_sub_cancel_right]
          exact not_lt.1 hlt
        · rw [add_assoc, add_comm 1]
          exact_mod_cast hhigh

/-- The power of two below a datum, and the one above it. -/
theorem two_pow_bits (hm : 0 < x.mantissa) :
    (2 : ℚ) ^ (x.scale + Nat.log2 x.mantissa) ≤ x.amount ∧
      x.amount < 2 ^ (x.scale + Nat.log2 x.mantissa + 1) := by
  have hlow : ((2 ^ Nat.log2 x.mantissa : ℕ) : ℚ) ≤ x.mantissa := by exact_mod_cast Nat.log2_self_le hm.ne'
  have hhigh : (x.mantissa : ℚ) < ((2 ^ (Nat.log2 x.mantissa + 1) : ℕ) : ℚ) := by exact_mod_cast Nat.lt_log2_self
  push_cast at hlow hhigh
  have hpos := two_zpow_pos x.scale
  constructor
  · rw [zpow_add₀ two_ne_zero, zpow_natCast, amount, mul_comm]
    exact mul_le_mul_of_nonneg_right hlow hpos.le
  · rw [add_assoc, zpow_add₀ two_ne_zero, amount, mul_comm (2 ^ x.scale)]
    refine mul_lt_mul_of_pos_right ?_ hpos
    exact_mod_cast hhigh

/-- **The power of ten above a datum.** -/
theorem magnitude_spec (hx : x.isFinite = true) (hm : 0 < x.mantissa) :
    (10 : ℚ) ^ (x.magnitude - 1) ≤ x.amount ∧ x.amount < 10 ^ x.magnitude := by
  obtain ⟨hlow, hhigh⟩ := two_pow_bits hm
  obtain ⟨hscale, hscale'⟩ := scale_bounds hx
  have hlog : Nat.log2 x.mantissa < 53 := (Nat.log2_lt hm.ne').2 x.mantissa_lt
  unfold magnitude
  dsimp only
  rw [Int.fdiv_eq_ediv_of_nonneg _ (by decide)]
  refine magnitudeFrom_spec 3 ?_ ?_
  · exact (estimate_low (by omega) (by omega)).trans hlow
  · exact hhigh.trans_le (estimate_high (by omega) (by omega))

/-! ## Neighbours on a grid -/

/-- **The neighbours of a datum** on a grid. -/
theorem floorOver_spec (x : Binary64) (e : ℤ) :
    (x.floorOver e : ℚ) * 10 ^ e ≤ x.amount ∧ x.amount < ((x.floorOver e + 1 : ℕ) : ℚ) * 10 ^ e := by
  have htwo := zpow_eq_div 2 x.scale
  have hten := zpow_eq_div 10 e
  push_cast at htwo hten
  have hpos : 0 < 2 ^ (-x.scale).toNat * 10 ^ e.toNat := by positivity
  have hfloor : x.floorOver e * (2 ^ (-x.scale).toNat * 10 ^ e.toNat) ≤
      x.mantissa * 2 ^ x.scale.toNat * 10 ^ (-e).toNat := Nat.div_mul_le_self _ _
  have hceil : x.mantissa * 2 ^ x.scale.toNat * 10 ^ (-e).toNat <
      (x.floorOver e + 1) * (2 ^ (-x.scale).toNat * 10 ^ e.toNat) :=
    (Nat.lt_mul_div_succ _ hpos).trans_eq (Nat.mul_comm _ _)
  rw [amount, htwo, hten]
  constructor
  · rw [← mul_div_assoc, ← mul_div_assoc, div_le_div_iff₀ (by positivity) (by positivity)]
    have hcast : ((x.floorOver e * (2 ^ (-x.scale).toNat * 10 ^ e.toNat) : ℕ) : ℚ) ≤
      ((x.mantissa * 2 ^ x.scale.toNat * 10 ^ (-e).toNat : ℕ) : ℚ) := Nat.cast_le.2 hfloor
    push_cast at hcast
    linarith
  · rw [← mul_div_assoc, ← mul_div_assoc, div_lt_div_iff₀ (by positivity) (by positivity)]
    have hcast : ((x.mantissa * 2 ^ x.scale.toNat * 10 ^ (-e).toNat : ℕ) : ℚ) <
      (((x.floorOver e + 1) * (2 ^ (-x.scale).toNat * 10 ^ e.toNat) : ℕ) : ℚ) := Nat.cast_lt.2 hceil
    push_cast at hcast ⊢
    linarith

/-- A decimal of the grid is not between these neighbours. -/
theorem floorOver_cases (x : Binary64) (e : ℤ) (j : ℕ) :
    j ≤ x.floorOver e ∧ (j : ℚ) * 10 ^ e ≤ (x.floorOver e : ℚ) * 10 ^ e ∨
      x.floorOver e + 1 ≤ j ∧ ((x.floorOver e + 1 : ℕ) : ℚ) * 10 ^ e ≤ j * 10 ^ e := by
  have hpos := ten_zpow_pos e
  rcases Nat.lt_or_ge (x.floorOver e) j with hlt | hge
  · exact Or.inr ⟨hlt, mul_le_mul_of_nonneg_right (by exact_mod_cast hlt) hpos.le⟩
  · exact Or.inl ⟨hge, mul_le_mul_of_nonneg_right (by exact_mod_cast hge) hpos.le⟩

/-- What reads back on a grid lies beside a neighbour that does. -/
theorem reads_neighbour {j : ℕ} (h : x.Reads (j * 10 ^ e)) :
    j ≤ x.floorOver e ∧ x.Reads (x.floorOver e * 10 ^ e) ∨
      x.floorOver e + 1 ≤ j ∧ x.Reads ((x.floorOver e + 1 : ℕ) * 10 ^ e) := by
  obtain ⟨hlow, hhigh⟩ := floorOver_spec x e
  rcases floorOver_cases x e j with ⟨hj, hle⟩ | ⟨hj, hle⟩
  · exact Or.inl ⟨hj, h.convex x.reads_self hle hlow⟩
  · exact Or.inr ⟨hj, x.reads_self.convex h hhigh.le hle⟩

/-- A decimal of a grid that no other one on it is nearer than, and that is even if another one is as near. -/
structure NearestOn (x : Binary64) (e : ℤ) (digits : ℕ) : Prop where
  neighbour : digits = x.floorOver e ∨ digits = x.floorOver e + 1
  reads : x.Reads (digits * 10 ^ e)
  nearest : ∀ j : ℕ, x.Reads (j * 10 ^ e) → |digits * 10 ^ e - x.amount| ≤ |j * 10 ^ e - x.amount|
  even : ∀ j : ℕ, x.Reads (j * 10 ^ e) → |digits * 10 ^ e - x.amount| = |j * 10 ^ e - x.amount| →
    j = digits ∨ digits % 2 = 0

theorem abs_sub_of_le {q a : ℚ} (h : q ≤ a) : |q - a| = a - q := by
  rw [abs_of_nonpos (by linarith)]
  ring

theorem abs_sub_of_ge {q a : ℚ} (h : a ≤ q) : |q - a| = q - a := abs_of_nonneg (by linarith)

theorem eq_of_mul_ten_zpow {i j : ℕ} (h : (i : ℚ) * 10 ^ e = j * 10 ^ e) : i = j := by
  exact_mod_cast mul_right_cancel₀ (ten_zpow_pos e).ne' h

/-- Of the decimals below a datum its neighbour is the nearest one. -/
theorem nearest_below {j : ℕ} (h : j ≤ x.floorOver e) :
    |(x.floorOver e : ℚ) * 10 ^ e - x.amount| ≤ |(j : ℚ) * 10 ^ e - x.amount| ∧
      (|(x.floorOver e : ℚ) * 10 ^ e - x.amount| = |(j : ℚ) * 10 ^ e - x.amount| → j = x.floorOver e) := by
  have hlow := (floorOver_spec x e).1
  have hle : (j : ℚ) * 10 ^ e ≤ x.floorOver e * 10 ^ e :=
    mul_le_mul_of_nonneg_right (by exact_mod_cast h) (ten_zpow_pos e).le
  rw [abs_sub_of_le hlow, abs_sub_of_le (hle.trans hlow)]
  refine ⟨by linarith, fun heq => eq_of_mul_ten_zpow (e := e) ?_⟩
  linarith

/-- Of the decimals above a datum its neighbour is the nearest one. -/
theorem nearest_above {j : ℕ} (h : x.floorOver e + 1 ≤ j) :
    |((x.floorOver e + 1 : ℕ) : ℚ) * 10 ^ e - x.amount| ≤ |(j : ℚ) * 10 ^ e - x.amount| ∧
      (|((x.floorOver e + 1 : ℕ) : ℚ) * 10 ^ e - x.amount| = |(j : ℚ) * 10 ^ e - x.amount| →
        j = x.floorOver e + 1) := by
  have hhigh := (floorOver_spec x e).2.le
  have hle : ((x.floorOver e + 1 : ℕ) : ℚ) * 10 ^ e ≤ j * 10 ^ e :=
    mul_le_mul_of_nonneg_right (by exact_mod_cast h) (ten_zpow_pos e).le
  rw [abs_sub_of_ge hhigh, abs_sub_of_ge (hhigh.trans hle)]
  refine ⟨by linarith, fun heq => eq_of_mul_ten_zpow (e := e) ?_⟩
  linarith

/-- **A neighbour is nearest** if the other one does not read back, is further away, or is as far away and this one
is even. -/
theorem nearestOn_of_neighbours {c d : ℕ}
    (hneighbours : c = x.floorOver e ∧ d = x.floorOver e + 1 ∨ c = x.floorOver e + 1 ∧ d = x.floorOver e)
    (hreads : x.Reads (c * 10 ^ e))
    (hother : x.Reads (d * 10 ^ e) → |(c : ℚ) * 10 ^ e - x.amount| < |(d : ℚ) * 10 ^ e - x.amount| ∨
      |(c : ℚ) * 10 ^ e - x.amount| = |(d : ℚ) * 10 ^ e - x.amount| ∧ c % 2 = 0) : x.NearestOn e c := by
  -- What reads back is on the side of this neighbour, or on that of the other one, which then reads back.
  have hsides : ∀ j : ℕ, x.Reads (j * 10 ^ e) →
      (|(c : ℚ) * 10 ^ e - x.amount| ≤ |(j : ℚ) * 10 ^ e - x.amount| ∧
        (|(c : ℚ) * 10 ^ e - x.amount| = |(j : ℚ) * 10 ^ e - x.amount| → j = c)) ∨
      x.Reads (d * 10 ^ e) ∧ |(d : ℚ) * 10 ^ e - x.amount| ≤ |(j : ℚ) * 10 ^ e - x.amount| := by
    intro j hj
    rcases hneighbours with ⟨rfl, rfl⟩ | ⟨rfl, rfl⟩
    · rcases reads_neighbour hj with ⟨hle, -⟩ | ⟨hge, hd⟩
      · exact Or.inl (nearest_below hle)
      · exact Or.inr ⟨hd, (nearest_above hge).1⟩
    · rcases reads_neighbour hj with ⟨hle, hd⟩ | ⟨hge, -⟩
      · exact Or.inr ⟨hd, (nearest_below hle).1⟩
      · exact Or.inl (nearest_above hge)
  refine ⟨hneighbours.imp And.left And.left, hreads, fun j hj => ?_, fun j hj heq => ?_⟩
  · rcases hsides j hj with ⟨hle, -⟩ | ⟨hd, hle⟩
    · exact hle
    · rcases hother hd with hfar | ⟨hfar, -⟩
      · exact hfar.le.trans hle
      · exact hfar.le.trans hle
  · rcases hsides j hj with ⟨-, hsame⟩ | ⟨hd, hle⟩
    · exact Or.inl (hsame heq)
    · rcases hother hd with hfar | ⟨-, heven⟩
      · exact absurd heq (hfar.trans_le hle).ne
      · exact Or.inr heven

/-- The neighbours are as far away from a datum as their sum is from twice the datum. -/
theorem neighbours_apart (x : Binary64) (e : ℤ) :
    |((x.floorOver e + 1 : ℕ) : ℚ) * 10 ^ e - x.amount| - |(x.floorOver e : ℚ) * 10 ^ e - x.amount| =
      ((x.floorOver e + (x.floorOver e + 1) : ℕ) : ℚ) * 10 ^ e - 2 * x.amount := by
  obtain ⟨hlow, hhigh⟩ := floorOver_spec x e
  rw [abs_sub_of_le hlow, abs_sub_of_ge hhigh.le]
  push_cast
  ring

/-- **What is found on a grid**: nothing if nothing there reads back, and else the nearest decimal that does. -/
theorem onGrid?_cases (hm : 0 < x.mantissa) (e : ℤ) :
    x.onGrid? e = none ∧ (∀ j : ℕ, ¬ x.Reads (j * 10 ^ e)) ∨
      ∃ digits, x.onGrid? e = some ⟨digits, e⟩ ∧ x.NearestOn e digits := by
  have hlow : x.readsBack ⟨x.floorOver e, e⟩ = true ↔ x.Reads (x.floorOver e * 10 ^ e) := readsBack_iff hm _
  have hhigh : x.readsBack ⟨x.floorOver e + 1, e⟩ = true ↔ x.Reads ((x.floorOver e + 1 : ℕ) * 10 ^ e) :=
    readsBack_iff hm _
  unfold onGrid?
  dsimp only
  cases hl : x.readsBack ⟨x.floorOver e, e⟩ with
  | false =>
      have hnotLow : ¬ x.Reads (x.floorOver e * 10 ^ e) := fun h => Bool.false_ne_true (hl.symm.trans (hlow.2 h))
      cases hh : x.readsBack ⟨x.floorOver e + 1, e⟩ with
      | false =>
          refine Or.inl ⟨rfl, fun j hj => ?_⟩
          rcases reads_neighbour hj with ⟨-, hreads⟩ | ⟨-, hreads⟩
          · exact hnotLow hreads
          · exact Bool.false_ne_true (hh.symm.trans (hhigh.2 hreads))
      | true =>
          exact Or.inr ⟨_, rfl, nearestOn_of_neighbours (Or.inr ⟨rfl, rfl⟩) (hhigh.1 hh) fun h => absurd h hnotLow⟩
  | true =>
      cases hh : x.readsBack ⟨x.floorOver e + 1, e⟩ with
      | false =>
          refine Or.inr ⟨_, rfl, nearestOn_of_neighbours (Or.inl ⟨rfl, rfl⟩) (hlow.1 hl) fun h => ?_⟩
          exact absurd (hh.symm.trans (hhigh.2 h)) Bool.false_ne_true
      | true =>
          -- Both neighbours read back, so the sum of their digits is compared with twice the datum.
          have hdouble : ((2 * x.mantissa : ℕ) : ℚ) * 2 ^ x.scale = 2 * x.amount := by
            rw [amount]
            push_cast
            ring
          have hapart := neighbours_apart x e
          have hlowest := nearestOn_of_neighbours (Or.inl ⟨rfl, rfl⟩) (hlow.1 hl)
          have hhighest := nearestOn_of_neighbours (Or.inr ⟨rfl, rfl⟩) (hhigh.1 hh)
          rw [compareScaled_eq, hdouble]
          refine Or.inr ?_
          rcases lt_trichotomy (((x.floorOver e + (x.floorOver e + 1) : ℕ) : ℚ) * 10 ^ e) (2 * x.amount) with
            hlt | heq | hgt
          · rw [compare_lt_iff_lt.2 hlt]
            exact ⟨_, rfl, hhighest fun _ => Or.inl (by linarith)⟩
          · rw [compare_eq_iff_eq.2 heq]
            by_cases heven : x.floorOver e % 2 = 0
            · exact ⟨_, by simp [heven], hlowest fun _ => Or.inr ⟨by linarith, heven⟩⟩
            · exact ⟨_, by simp [heven], hhighest fun _ => Or.inr ⟨by linarith, by omega⟩⟩
          · rw [compare_gt_iff_gt.2 hgt]
            exact ⟨_, rfl, hlowest fun _ => Or.inl (by linarith)⟩

/-! ## Seventeen digits -/

/-- The numbers that are read as a datum are further apart than the last of seventeen digits. -/
theorem ten_zpow_lt_width (he : (10 : ℚ) ^ e * 10 ^ 16 ≤ x.amount) :
    (10 : ℚ) ^ e < (x.gapBelow + 2 ^ x.scale) / 2 := by
  have hscale := two_zpow_pos x.scale
  rw [amount] at he
  unfold gapBelow
  split
  · next hnarrow =>
      have hhalf := two_zpow_pred x.scale
      rw [mantissa_of_narrowBelow hnarrow] at he
      norm_num at he
      linarith
  · have hmantissa : (x.mantissa : ℚ) < 2 * fractionCount := by exact_mod_cast x.mantissa_lt
    have hmul := mul_lt_mul_of_pos_right hmantissa hscale
    norm_num at he hmul
    linarith

/-- **Seventeen digits suffice** for a decimal that reads back. -/
theorem exists_reads_seventeen (he : (10 : ℚ) ^ e * 10 ^ 16 ≤ x.amount) :
    ∃ j : ℕ, x.Reads (j * 10 ^ e) := by
  obtain ⟨hlow, hhigh⟩ := floorOver_spec x e
  have hwidth := ten_zpow_lt_width he
  have hnext : ((x.floorOver e + 1 : ℕ) : ℚ) * 10 ^ e = x.floorOver e * 10 ^ e + 10 ^ e := by
    push_cast
    ring
  have hscale := two_zpow_pos x.scale
  rcases lt_or_ge (x.amount - x.gapBelow / 2) (x.floorOver e * 10 ^ e) with hnear | hfar
  · exact ⟨x.floorOver e, Or.inl hnear, Or.inl (by linarith)⟩
  · have hgap := x.gapBelow_pos
    exact ⟨x.floorOver e + 1, Or.inl (by linarith), Or.inl (by linarith)⟩

end Binary64
end StepForge
