import StepForge.Proofs.Number.Grid

/-!
# `StepForge.Proofs.Number.Digits` — the shortest decimal of a datum

A datum is written with the fewest digits of a decimal that is read as the datum; of several such decimals the nearest
one is taken, and of two that are as near the one with even digits. There is exactly one, and `shortest` finds it: it
looks at one grid after another, from one digit on.

## Contents
- `HasDigits`, `IsDigits` — the digits of a number, and the digits that a datum is written with.
- `shortest_found`, `shortest_cases` — where `shortest` finds its decimal.
- `farther_or_on_grid` — the other decimals of as many digits.
- `isDigits_shortest`, `IsDigits.unique` — the digits that a datum is written with are those of `shortest`.
-/

namespace StepForge

/-- A number has `k` decimal digits, the first of which is not zero. -/
structure HasDigits (s k : ℕ) : Prop where
  pos : 0 < k
  low : 10 ^ (k - 1) ≤ s
  high : s < 10 ^ k

theorem HasDigits.unique {s k j : ℕ} (hk : HasDigits s k) (hj : HasDigits s j) : k = j := by
  have hle : ∀ {i l : ℕ}, HasDigits s i → HasDigits s l → i ≤ l := by
    intro i l hi hl
    have hlt : i - 1 < l := (Nat.pow_lt_pow_iff_right (by decide)).1 (hi.low.trans_lt hl.high)
    have hpos := hi.pos
    omega
  exact le_antisymm (hle hk hj) (hle hj hk)

namespace Binary64

/-- **The digits of a datum**: the number `s` has `k` digits, with the point behind the first `n` of them it is read as
the datum, no number of fewer digits is, none of as many digits that is read so is nearer, and if another one is as
near then this one is even. -/
structure IsDigits (x : Binary64) (s k : ℕ) (n : ℤ) : Prop where
  digits : HasDigits s k
  reads : x.IsNearest (s * 10 ^ (n - k))
  fewest : ∀ (s' k' : ℕ) (n' : ℤ), HasDigits s' k' → x.IsNearest (s' * 10 ^ (n' - k')) → k ≤ k'
  nearest : ∀ (s' : ℕ) (n' : ℤ), HasDigits s' k → x.IsNearest (s' * 10 ^ (n' - k)) →
    |s * 10 ^ (n - k) - x.amount| ≤ |s' * 10 ^ (n' - k) - x.amount|
  even : ∀ (s' : ℕ) (n' : ℤ), HasDigits s' k → x.IsNearest (s' * 10 ^ (n' - k)) →
    |s * 10 ^ (n - k) - x.amount| = |s' * 10 ^ (n' - k) - x.amount| → s' = s ∧ n' = n ∨ s % 2 = 0

variable {x : Binary64} {s k : ℕ} {n : ℤ}

/-! ## Where a decimal lies -/

/-- The point tells between which powers of ten a decimal lies. -/
theorem bounds_of_hasDigits (h : HasDigits s k) (n : ℤ) :
    (10 : ℚ) ^ (n - 1) ≤ s * 10 ^ (n - k) ∧ (s : ℚ) * 10 ^ (n - k) < 10 ^ n := by
  have hpos := ten_zpow_pos (n - k)
  have hlow : (10 : ℚ) ^ (k - 1) ≤ s := by exact_mod_cast h.low
  have hhigh : (s : ℚ) < 10 ^ k := by exact_mod_cast h.high
  have hk := h.pos
  constructor
  · rw [ten_zpow_split (k - 1) (show n - 1 = (k - 1 : ℕ) + (n - k) by omega)]
    exact mul_le_mul_of_nonneg_right hlow hpos.le
  · rw [ten_zpow_split k (show n = k + (n - k) by omega)]
    exact mul_lt_mul_of_pos_right hhigh hpos

/-- A decimal is below a power of ten exactly if its point is not further to the right. -/
theorem lt_ten_zpow_iff (h : HasDigits s k) (n j : ℤ) : (s : ℚ) * 10 ^ (n - k) < 10 ^ j ↔ n ≤ j := by
  obtain ⟨hlow, hhigh⟩ := bounds_of_hasDigits h n
  constructor
  · intro hlt
    have hpoint := (zpow_lt_zpow_iff_right₀ (by norm_num : (1 : ℚ) < 10)).1 (hlow.trans_lt hlt)
    omega
  · intro hle
    exact hhigh.trans_le (zpow_le_zpow_right₀ (by norm_num) hle)

/-- A decimal whose point is not further to the left lies on a grid of as many digits. -/
theorem mul_ten_zpow_eq {m : ℤ} (hmn : m ≤ n) (s : ℕ) (e : ℤ) :
    (s : ℚ) * 10 ^ (n - e) = ((s * 10 ^ (n - m).toNat : ℕ) : ℚ) * 10 ^ (m - e) := by
  rw [ten_zpow_split (n - m).toNat (show n - e = (n - m).toNat + (m - e) by omega)]
  push_cast
  ring

/-- A decimal whose point is further to the left is below the power of ten below a datum. -/
theorem lt_of_point_lt (hx : x.isFinite = true) (hm : 0 < x.mantissa) (h : HasDigits s k) (hn : n < x.magnitude) :
    (s : ℚ) * 10 ^ (n - k) < 10 ^ (x.magnitude - 1) ∧ (10 : ℚ) ^ (x.magnitude - 1) ≤ x.amount := by
  refine ⟨(bounds_of_hasDigits h n).2.trans_le ?_, (magnitude_spec hx hm).1⟩
  exact zpow_le_zpow_right₀ (by norm_num) (by omega)

/-! ## The search -/

/-- A search through the first numbers finds the least one. -/
theorem findSome?_range {β : Type} {f : ℕ → Option β} {b : β} {c : ℕ}
    (h : (List.range c).findSome? f = some b) : ∃ m, f m = some b ∧ ∀ i < m, f i = none := by
  induction c with
  | zero => cases h
  | succ c ih =>
      rw [List.range_succ, List.findSome?_append] at h
      cases hfirst : (List.range c).findSome? f with
      | some d =>
          rw [hfirst, Option.some_or] at h
          exact ih (hfirst.trans h)
      | none =>
          rw [hfirst, Option.none_or, List.findSome?_singleton] at h
          exact ⟨c, h, fun i hi => List.findSome?_eq_none_iff.1 hfirst i (List.mem_range.2 hi)⟩

/-- The exponent of the grid of `n + 1` digits. -/
def gridOf (x : Binary64) (n : ℕ) : ℤ := x.magnitude - (n + 1 : ℕ)

/-- The power of ten below a datum on a grid, and the one above it. -/
theorem ten_zpow_magnitude (x : Binary64) (m : ℕ) :
    (10 : ℚ) ^ (x.magnitude - 1) = ((10 ^ m : ℕ) : ℚ) * 10 ^ x.gridOf m ∧
      (10 : ℚ) ^ x.magnitude = ((10 ^ (m + 1) : ℕ) : ℚ) * 10 ^ x.gridOf m := by
  push_cast
  unfold gridOf
  exact ⟨ten_zpow_split m (by omega), ten_zpow_split (m + 1) (by omega)⟩

/-- **Where the shortest decimal is found**: on the first grid on which one reads back. -/
theorem shortest_found (hx : x.isFinite = true) (hm : 0 < x.mantissa) :
    ∃ m digits, x.NearestOn (x.gridOf m) digits ∧ (∀ i < m, ∀ j : ℕ, ¬ x.Reads (j * 10 ^ x.gridOf i)) ∧
      x.shortest = stripZeros (Nat.log2 digits + 1) ⟨digits, x.gridOf m⟩ := by
  have hlast : x.onGrid? (x.gridOf 16) ≠ none := by
    intro hnone
    rcases onGrid?_cases hm (x.gridOf 16) with ⟨-, hgrid⟩ | ⟨digits, hsome, -⟩
    · have hlow := (magnitude_spec hx hm).1
      rw [(x.ten_zpow_magnitude 16).1, mul_comm, Nat.cast_pow, Nat.cast_ofNat] at hlow
      obtain ⟨j, hj⟩ := exists_reads_seventeen hlow
      exact hgrid j hj
    · cases hnone.symm.trans hsome
  cases hfound : (List.range 17).findSome? fun n => x.onGrid? (x.gridOf n) with
  | none => exact absurd (List.findSome?_eq_none_iff.1 hfound 16 (by decide)) hlast
  | some d =>
      obtain ⟨m, hsome, hnone⟩ := findSome?_range hfound
      rcases onGrid?_cases hm (x.gridOf m) with ⟨hother, -⟩ | ⟨digits, hdigits, hnearest⟩
      · cases hother.symm.trans hsome
      · cases hdigits.symm.trans hsome
        refine ⟨m, digits, hnearest, fun i hi => ?_, ?_⟩
        · rcases onGrid?_cases hm (x.gridOf i) with ⟨-, hgrid⟩ | ⟨other, hother, -⟩
          · exact hgrid
          · cases (hnone i hi).symm.trans hother
        · show stripZeros (Nat.log2 (((List.range 17).findSome? fun n => x.onGrid? (x.gridOf n)).getD x.exact).digits + 1)
            (((List.range 17).findSome? fun n => x.onGrid? (x.gridOf n)).getD x.exact) = _
          rw [hfound]
          rfl

theorem stripZeros_of_ne {d : Decimal} (h : d.digits % 10 ≠ 0) (fuel : ℕ) : stripZeros fuel d = d := by
  cases fuel with
  | zero => rfl
  | succ fuel =>
      unfold stripZeros
      rw [if_neg]
      simpa using fun _ => h

section

variable {m digits : ℕ} (hx : x.isFinite = true) (hm : 0 < x.mantissa) (hdigits : x.NearestOn (x.gridOf m) digits)
  (hfirst : ∀ i < m, ∀ j : ℕ, ¬ x.Reads (j * 10 ^ x.gridOf i))

include hx hm

/-- The decimals next to a datum have as many digits as their grid is for, but for the power of ten above it. -/
theorem floorOver_bounds : 10 ^ m ≤ x.floorOver (x.gridOf m) ∧ x.floorOver (x.gridOf m) < 10 ^ (m + 1) := by
  obtain ⟨hlow, hhigh⟩ := magnitude_spec hx hm
  obtain ⟨hfloor, hceil⟩ := floorOver_spec x (x.gridOf m)
  have hpos := ten_zpow_pos (x.gridOf m)
  rw [(x.ten_zpow_magnitude m).1] at hlow
  rw [(x.ten_zpow_magnitude m).2] at hhigh
  constructor
  · have hlt := lt_of_mul_lt_mul_right (hlow.trans_lt hceil) hpos.le
    have hnat : 10 ^ m < x.floorOver (x.gridOf m) + 1 := by exact_mod_cast hlt
    omega
  · have hlt := lt_of_mul_lt_mul_right (hfloor.trans_lt hhigh) hpos.le
    exact_mod_cast hlt

include hfirst

/-- Nothing with the point further to the left is read, if one digit does not suffice. -/
theorem not_reads_below (hpos : 0 < m) {q : ℚ} (hq : q < 10 ^ (x.magnitude - 1)) : ¬ x.Reads q := by
  intro hreads
  have hunit := hreads.convex x.reads_self hq.le (magnitude_spec hx hm).1
  rw [(x.ten_zpow_magnitude 0).1] at hunit
  exact hfirst 0 hpos _ hunit

/-- **Fewer digits do not suffice.** -/
theorem digits_of_reads (hdigits : HasDigits s k) (hreads : x.Reads (s * 10 ^ (n - k))) : m + 1 ≤ k := by
  by_contra hlt
  have hk := hdigits.pos
  -- With its point where the datum has it, the decimal is on a grid that was passed over.
  rcases le_or_gt x.magnitude n with hle | hgt
  · refine hfirst (k - 1) (by omega) (s * 10 ^ (n - x.magnitude).toNat) ?_
    have hgrid : x.gridOf (k - 1) = x.magnitude - k := by
      unfold gridOf
      omega
    rw [hgrid, ← mul_ten_zpow_eq hle]
    exact hreads
  · exact not_reads_below hx hm hfirst (by omega) (lt_of_point_lt hx hm hdigits hgt).1 hreads

omit hx hm in
/-- A decimal that ends in a zero would have been found on the grid before. -/
theorem eq_zero_of_mod_ten {digits : ℕ} (hreads : x.Reads (digits * 10 ^ x.gridOf m)) (hzero : digits % 10 = 0) :
    m = 0 := by
  cases m with
  | zero => rfl
  | succ i =>
      have hgrid : x.gridOf i = x.gridOf (i + 1) + 1 := by
        unfold gridOf
        omega
      have hten : (digits : ℚ) * 10 ^ x.gridOf (i + 1) = ((digits / 10 : ℕ) : ℚ) * 10 ^ x.gridOf i := by
        have hdiv : digits = digits / 10 * 10 := by omega
        rw [hgrid, zpow_add_one₀ (by norm_num)]
        nth_rewrite 1 [hdiv]
        push_cast
        ring
      rw [hten] at hreads
      exact absurd hreads (hfirst i (Nat.lt_succ_self i) _)

end

/-- **The shortest decimal** is the one that is found, with one digit if that is ten. -/
theorem shortest_cases (hx : x.isFinite = true) (hm : 0 < x.mantissa) :
    ∃ m digits, x.NearestOn (x.gridOf m) digits ∧ (∀ i < m, ∀ j : ℕ, ¬ x.Reads (j * 10 ^ x.gridOf i)) ∧
      (digits % 10 ≠ 0 ∧ HasDigits digits (m + 1) ∧ x.shortest = ⟨digits, x.gridOf m⟩ ∨
        m = 0 ∧ digits = 10 ∧ x.floorOver (x.gridOf 0) = 9 ∧ x.shortest = ⟨1, x.magnitude⟩) := by
  obtain ⟨m, digits, hnearest, hfirst, hshortest⟩ := shortest_found hx hm
  obtain ⟨hlow, hhigh⟩ := floorOver_bounds (m := m) hx hm
  have hpow : 10 ^ (m + 1) % 10 = 0 := by
    rw [Nat.pow_succ]
    exact Nat.mul_mod_left _ _
  refine ⟨m, digits, hnearest, hfirst, ?_⟩
  by_cases hzero : digits % 10 = 0
  · obtain rfl := eq_zero_of_mod_ten hfirst hnearest.reads hzero
    have hdigits : digits = 10 ∧ x.floorOver (x.gridOf 0) = 9 := by
      rcases hnearest.neighbour with h | h
      · omega
      · omega
    obtain ⟨rfl, hfloor⟩ := hdigits
    refine Or.inr ⟨rfl, rfl, hfloor, ?_⟩
    rw [hshortest]
    have hgrid : x.gridOf 0 + 1 = x.magnitude := by
      unfold gridOf
      omega
    have hlog : Nat.log2 10 = 3 := by decide
    rw [← hgrid, hlog]
    simp [stripZeros]
  · refine Or.inl ⟨hzero, ⟨Nat.succ_pos m, ?_, ?_⟩, ?_⟩
    · rcases hnearest.neighbour with h | h
      · exact h ▸ hlow
      · exact h ▸ hlow.trans (Nat.le_succ _)
    · rcases hnearest.neighbour with h | h
      · exact h ▸ hhigh
      · refine lt_of_le_of_ne (h ▸ hhigh) ?_
        intro heq
        rw [heq] at hzero
        exact hzero hpow
    · rw [hshortest]
      exact stripZeros_of_ne hzero _

/-! ## The digits of a datum -/

section

variable {m digits : ℕ} (hx : x.isFinite = true) (hm : 0 < x.mantissa) (hnearest : x.NearestOn (x.gridOf m) digits)

include hx hm hnearest

/-- **A decimal of as many digits** is further away than the one that is found, or it lies on the same grid. -/
theorem farther_or_on_grid (h : HasDigits s (m + 1)) (hreads : x.Reads (s * 10 ^ (n - (m + 1 : ℕ)))) :
    |digits * 10 ^ x.gridOf m - x.amount| < |s * 10 ^ (n - (m + 1 : ℕ)) - x.amount| ∨
      x.magnitude ≤ n ∧ (s : ℚ) * 10 ^ (n - (m + 1 : ℕ)) =
        ((s * 10 ^ (n - x.magnitude).toNat : ℕ) : ℚ) * 10 ^ x.gridOf m := by
  rcases lt_or_ge n x.magnitude with hlt | hge
  · -- The power of ten below the datum is on the grid and nearer.
    obtain ⟨hbelow, hle⟩ := lt_of_point_lt hx hm h hlt
    have hpower := hreads.convex x.reads_self hbelow.le hle
    rw [(x.ten_zpow_magnitude m).1] at hbelow hle hpower
    refine Or.inl ((hnearest.nearest _ hpower).trans_lt ?_)
    rw [abs_sub_of_le hle, abs_sub_of_le (hbelow.le.trans hle)]
    linarith
  · exact Or.inr ⟨hge, mul_ten_zpow_eq hge s _⟩

/-- No decimal of as many digits is nearer than the one that is found. -/
theorem nearest_of_digits (h : HasDigits s (m + 1)) (hreads : x.Reads (s * 10 ^ (n - (m + 1 : ℕ)))) :
    |digits * 10 ^ x.gridOf m - x.amount| ≤ |s * 10 ^ (n - (m + 1 : ℕ)) - x.amount| := by
  rcases farther_or_on_grid hx hm hnearest h hreads with hfar | ⟨-, hgrid⟩
  · exact hfar.le
  · rw [hgrid] at hreads ⊢
    exact hnearest.nearest _ hreads

/-- A decimal of as many digits that is as near lies on the same grid, and is the one that is found unless that is
even. -/
theorem even_of_digits (h : HasDigits s (m + 1)) (hreads : x.Reads (s * 10 ^ (n - (m + 1 : ℕ))))
    (heq : |digits * 10 ^ x.gridOf m - x.amount| = |s * 10 ^ (n - (m + 1 : ℕ)) - x.amount|) :
    x.magnitude ≤ n ∧ x.Reads ((s * 10 ^ (n - x.magnitude).toNat : ℕ) * 10 ^ x.gridOf m) ∧
      |digits * 10 ^ x.gridOf m - x.amount| =
        |((s * 10 ^ (n - x.magnitude).toNat : ℕ) : ℚ) * 10 ^ x.gridOf m - x.amount| ∧
      (s * 10 ^ (n - x.magnitude).toNat = digits ∨ digits % 2 = 0) := by
  rcases farther_or_on_grid hx hm hnearest h hreads with hfar | ⟨hle, hgrid⟩
  · exact absurd heq hfar.ne
  · rw [hgrid] at hreads heq
    exact ⟨hle, hreads, heq, hnearest.even _ hreads heq⟩

end

/-- **Nine and a half** times a power of ten is no datum, where ten times the power is read as it: the significand would
be below ten and a multiple of nineteen. -/
theorem not_halfway (hm : 0 < x.mantissa) {e : ℤ} (hmid : 2 * x.amount = 19 * 10 ^ e)
    (hreads : x.Reads (((10 : ℕ) : ℚ) * 10 ^ e)) : False := by
  have hscale := two_zpow_pos x.scale
  have hhigh : ((10 : ℕ) : ℚ) * 10 ^ e ≤ x.amount + 2 ^ x.scale / 2 := by
    rcases hreads.2 with h | ⟨h, -⟩
    · exact h.le
    · exact h.le
  have hle : (10 : ℚ) ^ e ≤ 2 ^ x.scale := by
    push_cast at hhigh
    linarith
  have hsmall : x.mantissa < 19 := by
    rw [amount] at hmid
    have hcast : (2 * x.mantissa : ℚ) * 2 ^ x.scale ≤ 19 * 2 ^ x.scale := by linarith
    have hnat : 2 * x.mantissa ≤ 19 := by exact_mod_cast le_of_mul_le_mul_right hcast hscale
    omega
  have hdvd : 19 ∣ x.mantissa := by
    have htwo := zpow_eq_div 2 x.scale
    have hten := zpow_eq_div 10 e
    push_cast at htwo hten
    have hnat : x.mantissa * (2 * 2 ^ x.scale.toNat * 10 ^ (-e).toNat) =
        19 * (10 ^ e.toNat * 2 ^ (-x.scale).toNat) := by
      rw [amount, htwo, hten] at hmid
      field_simp at hmid
      exact_mod_cast (by linarith : (x.mantissa : ℚ) * (2 * 2 ^ x.scale.toNat * 10 ^ (-e).toNat) =
        19 * (10 ^ e.toNat * 2 ^ (-x.scale).toNat))
    have hcoprime : Nat.Coprime 19 (2 * 2 ^ x.scale.toNat * 10 ^ (-e).toNat) := by
      refine Nat.Coprime.mul_right (Nat.Coprime.mul_right (by decide) ?_) ?_
      · exact Nat.Coprime.pow_right _ (by decide)
      · exact Nat.Coprime.pow_right _ (by decide)
    exact hcoprime.dvd_of_dvd_mul_right ⟨_, hnat⟩
  exact absurd (Nat.le_of_dvd hm hdvd) (by omega)

/-- Ten is the nearest one on its grid only if it is nearer than all others. -/
theorem eq_ten_of_as_near (hm : 0 < x.mantissa) {e : ℤ} {j : ℕ} (hnearest : x.NearestOn e 10)
    (hfloor : x.floorOver e = 9) (hreads : x.Reads (j * 10 ^ e))
    (heq : |((10 : ℕ) : ℚ) * 10 ^ e - x.amount| = |(j : ℚ) * 10 ^ e - x.amount|) : j = 10 := by
  obtain ⟨hlow, hhigh⟩ := floorOver_spec x e
  rw [hfloor] at hlow hhigh
  rw [abs_sub_of_ge hhigh.le] at heq
  rcases floorOver_cases x e j with ⟨-, hle⟩ | ⟨-, hle⟩
  · -- A decimal below that is as near as ten can only be nine, and the datum half way between.
    rw [hfloor] at hle
    have hnine := hnearest.nearest 9 (hreads.convex x.reads_self hle hlow)
    rw [abs_sub_of_ge hhigh.le, abs_sub_of_le hlow] at hnine
    rw [abs_sub_of_le (hle.trans hlow)] at heq
    refine (not_halfway hm (e := e) ?_ hnearest.reads).elim
    push_cast at hle hnine heq
    linarith
  · rw [hfloor] at hle
    rw [abs_sub_of_ge (hhigh.le.trans hle)] at heq
    exact (eq_of_mul_ten_zpow (e := e) (by linarith)).symm

/-- Zeros behind a number that does not end in one are none. -/
theorem zeros_eq_zero {d i : ℕ} (hzero : d % 10 ≠ 0) (h : s * 10 ^ i = d) : i = 0 := by
  cases i with
  | zero => rfl
  | succ i =>
      rw [pow_succ, ← Nat.mul_assoc] at h
      exact absurd (h ▸ Nat.mul_mod_left _ 10) hzero

/-- One digit and zeros behind it are ten only as one and one zero. -/
theorem one_and_zero {i : ℕ} (hs : s < 10) (h : s * 10 ^ i = 10) : s = 1 ∧ i = 1 := by
  cases i with
  | zero => omega
  | succ i =>
      rw [pow_succ, ← Nat.mul_assoc] at h
      have hone : s * 10 ^ i = 1 := by omega
      obtain ⟨rfl, hpow⟩ := mul_eq_one.1 hone
      rcases Nat.pow_eq_one.1 hpow with hten | rfl
      · cases hten
      · exact ⟨rfl, rfl⟩

section

variable {m digits : ℕ} (hx : x.isFinite = true) (hm : 0 < x.mantissa) (hnearest : x.NearestOn (x.gridOf m) digits)
  (hfirst : ∀ i < m, ∀ j : ℕ, ¬ x.Reads (j * 10 ^ x.gridOf i))

include hx hm hnearest hfirst

/-- What is found are the digits of the datum, if it does not end in a zero. -/
theorem isDigits_of_mod_ten (hzero : digits % 10 ≠ 0) (hdigits : HasDigits digits (m + 1)) :
    x.IsDigits digits (m + 1) (x.gridOf m + (m + 1 : ℕ)) := by
  have hpoint : x.gridOf m + (m + 1 : ℕ) = x.magnitude := by
    unfold gridOf
    omega
  have hgrid : x.magnitude - (m + 1 : ℕ) = x.gridOf m := rfl
  rw [hpoint]
  refine ⟨hdigits, (isNearest_iff_reads hx hm).2 hnearest.reads, fun s' k' n' h hread => ?_, fun s' n' h hread => ?_,
    fun s' n' h hread heq => ?_⟩
  · exact digits_of_reads hx hm hfirst h ((isNearest_iff_reads hx hm).1 hread)
  · exact nearest_of_digits hx hm hnearest h ((isNearest_iff_reads hx hm).1 hread)
  · obtain ⟨hle, -, -, hsame | heven⟩ :=
      even_of_digits hx hm hnearest h ((isNearest_iff_reads hx hm).1 hread) heq
    · -- The last digit is not zero, so the points are the same.
      have hshift := zeros_eq_zero hzero hsame
      rw [hshift, pow_zero, Nat.mul_one] at hsame
      exact Or.inl ⟨hsame, by omega⟩
    · exact Or.inr heven

end

/-- One is the digit of the datum, if ten is found. -/
theorem isDigits_of_ten (hx : x.isFinite = true) (hm : 0 < x.mantissa) (hnearest : x.NearestOn (x.gridOf 0) 10)
    (hfloor : x.floorOver (x.gridOf 0) = 9) : x.IsDigits 1 1 (x.magnitude + (1 : ℕ)) := by
  have hten : ((1 : ℕ) : ℚ) * 10 ^ (x.magnitude + (1 : ℕ) - (1 : ℕ)) = ((10 : ℕ) : ℚ) * 10 ^ x.gridOf 0 := by
    have hgrid : x.magnitude + ((1 : ℕ) : ℤ) - ((1 : ℕ) : ℤ) = x.gridOf 0 + 1 := by
      unfold gridOf
      omega
    rw [hgrid, zpow_add_one₀ (by norm_num)]
    push_cast
    ring
  refine ⟨⟨Nat.one_pos, by norm_num, by norm_num⟩, ?_, fun s' k' n' h hread => h.pos, fun s' n' h hread => ?_,
    fun s' n' h hread heq => ?_⟩
  · rw [hten]
    exact (isNearest_iff_reads hx hm).2 hnearest.reads
  · rw [hten]
    exact nearest_of_digits hx hm hnearest h ((isNearest_iff_reads hx hm).1 hread)
  · rw [hten] at heq
    obtain ⟨hle, hreads, hgrid, -⟩ :=
      even_of_digits hx hm hnearest h ((isNearest_iff_reads hx hm).1 hread) heq
    obtain ⟨hs, hshift⟩ := one_and_zero h.high (eq_ten_of_as_near hm hnearest hfloor hreads hgrid)
    exact Or.inl ⟨hs, by omega⟩

/-- **The shortest decimal** has the digits of the datum. -/
theorem isDigits_shortest (hx : x.isFinite = true) (hm : 0 < x.mantissa) :
    ∃ k : ℕ, x.IsDigits x.shortest.digits k (x.shortest.exponent + k) := by
  obtain ⟨m, digits, hnearest, hfirst, hcases⟩ := shortest_cases hx hm
  rcases hcases with ⟨hzero, hdigits, hshortest⟩ | ⟨rfl, rfl, hfloor, hshortest⟩
  · rw [hshortest]
    exact ⟨m + 1, isDigits_of_mod_ten hx hm hnearest hfirst hzero hdigits⟩
  · rw [hshortest]
    exact ⟨1, isDigits_of_ten hx hm hnearest hfloor⟩

/-! ## One text -/

/-- Between two numbers that are as far away every number is nearer. -/
theorem nearer_of_between {p q r a : ℚ} (heq : |p - a| = |r - a|) (hpq : p < q) (hqr : q < r) : |q - a| < |p - a| := by
  rcases abs_eq_abs.1 heq with h | h
  · linarith
  · have hp : |p - a| = a - p := abs_sub_of_le (by linarith)
    rw [hp, abs_sub_lt_iff]
    constructor
    · linarith
    · linarith

/-- Of two numbers with the digits of a datum none has its point further to the left, and none is less. -/
theorem IsDigits.not_before {s' : ℕ} {n' : ℤ} (h : x.IsDigits s k n) (h' : x.IsDigits s' k n') (hx : x.isFinite = true)
    (hm : 0 < x.mantissa) : ¬ (n < n' ∨ n = n' ∧ s < s') := by
  intro hlt
  have hne : ¬ (s' = s ∧ n' = n) := by omega
  have heq := le_antisymm (h.nearest s' n' h'.digits h'.reads) (h'.nearest s n h.digits h.reads)
  have heven := (h.even s' n' h'.digits h'.reads heq).resolve_left hne
  have heven' := (h'.even s n h.digits h.reads heq.symm).resolve_left fun hsame => hne ⟨hsame.1.symm, hsame.2.symm⟩
  have hpow : 10 ^ k % 2 = 0 := by
    obtain ⟨i, rfl⟩ := Nat.exists_eq_succ_of_ne_zero h.digits.pos.ne'
    rw [Nat.pow_succ]
    omega
  -- Both are even and so more than one apart: what follows the lower one has as many digits and is nearer than both.
  have hsucc : HasDigits (s + 1) k := by
    have hhigh := h.digits.high
    have hlow := h.digits.low
    exact ⟨h.digits.pos, by omega, by omega⟩
  have hpos := ten_zpow_pos (n - k)
  have hbelow : (s : ℚ) * 10 ^ (n - k) < ((s + 1 : ℕ) : ℚ) * 10 ^ (n - k) := by
    refine mul_lt_mul_of_pos_right ?_ hpos
    exact_mod_cast Nat.lt_succ_self s
  have habove : ((s + 1 : ℕ) : ℚ) * 10 ^ (n - k) < s' * 10 ^ (n' - k) := by
    rcases hlt with hpoint | ⟨rfl, hless⟩
    · refine (bounds_of_hasDigits hsucc n).2.trans_le (le_trans ?_ (bounds_of_hasDigits h'.digits n').1)
      exact zpow_le_zpow_right₀ (by norm_num) (by omega)
    · refine mul_lt_mul_of_pos_right ?_ hpos
      have hnat : s + 1 < s' := by omega
      exact_mod_cast hnat
  have hreads := ((isNearest_iff_reads hx hm).1 h.reads).convex ((isNearest_iff_reads hx hm).1 h'.reads) hbelow.le
    habove.le
  have hnearer := nearer_of_between heq hbelow habove
  exact absurd (h.nearest _ n hsucc ((isNearest_iff_reads hx hm).2 hreads)) (not_le.2 hnearer)

/-- **A datum has one number of digits, one point and one number with them.** -/
theorem IsDigits.unique {s' k' : ℕ} {n' : ℤ} (h : x.IsDigits s k n) (h' : x.IsDigits s' k' n')
    (hx : x.isFinite = true) (hm : 0 < x.mantissa) : s = s' ∧ k = k' ∧ n = n' := by
  obtain rfl := le_antisymm (h.fewest s' k' n' h'.digits h'.reads) (h'.fewest s k n h.digits h.reads)
  have hnot := h.not_before h' hx hm
  have hnot' := h'.not_before h hx hm
  omega

end Binary64
end StepForge
