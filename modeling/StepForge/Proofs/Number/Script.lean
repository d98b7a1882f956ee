import StepForge.Proofs.Number.Places
import StepForge.Proofs.Text.Numeral
import StepForge.Value.Display

/-!
# `StepForge.Proofs.Number.Script` — numbers as a script converts them

A script converts a number to a text by rules of its own: the fewest digits that are read back are laid out without an
exponent from a millionth up to the twenty-first power of ten, and an exponent has no zeros in front. The text of a
value in a script takes its numbers from other rules. A number without a fraction is written out to its last digit,
and the others are in the plain layout, which has exponents from a ten-thousandth down, of at least two digits.

## Contents
- `scriptNumeral` — digits laid out for a script.
- `scriptNumeral_eq_ofNat_iff`, `scriptNumeral_eq_digits_iff` — where that is a numeral, or the plain layout.
- `NumberString` — the conversion of a finite datum.
- `SameInScript`, `scriptText_whole_iff`, `scriptText_fraction_iff`, `scriptText_float_iff` — the data whose text in a
  script is their conversion.
-/

namespace StepForge

/-- A number of `k` digits with the point behind the first `n` of them, as a script lays it out. -/
def scriptNumeral (s k : ℕ) (n : ℤ) : Text :=
  let ds := Text.ofNat s
  if k ≤ n ∧ n ≤ 21 then ds ++ List.replicate (n - k).toNat '0'.toNat
  else if 0 < n ∧ n ≤ 21 then ds.take n.toNat ++ '.'.toNat :: ds.drop n.toNat
  else if -6 < n ∧ n ≤ 0 then ("0." : Text) ++ List.replicate (-n).toNat '0'.toNat ++ ds
  else
    let exponent : Text := (if n - 1 < 0 then "e-" else "e+" : Text) ++ Text.ofNat (n - 1).natAbs
    if k = 1 then ds ++ exponent else ds.take 1 ++ '.'.toNat :: ds.drop 1 ++ exponent

theorem HasDigits.length_ofNat {s k : ℕ} (h : HasDigits s k) : (Text.ofNat s).length = k := by
  have hpos := h.pos
  refine le_antisymm ((Text.length_ofNat_le_iff hpos).2 h.high) ?_
  by_contra hlt
  have hlow := h.low
  have hlength := Text.length_ofNat_pos s
  have hhigh := (Text.length_ofNat_le_iff (n := s) (k := k - 1) (by omega)).1 (by omega)
  omega

theorem HasDigits.ne_zero {s k : ℕ} (h : HasDigits s k) : 0 < s :=
  lt_of_lt_of_le (Nat.pow_pos (by decide)) h.low

/-! ## Layouts -/

variable {s k : ℕ} {n : ℤ}

/-- With an exponent there is a letter in the text. -/
theorem letter_mem_scriptNumeral (hwhole : ¬ (k ≤ n ∧ n ≤ 21)) (hpoint : ¬ (0 < n ∧ n ≤ 21))
    (hsmall : ¬ (-6 < n ∧ n ≤ 0)) : 'e'.toNat ∈ scriptNumeral s k n := by
  have hexponent : 'e'.toNat ∈ (if n - 1 < 0 then "e-" else "e+" : Text) := by
    split
    · decide
    · decide
  unfold scriptNumeral
  simp only [if_neg hwhole, if_neg hpoint, if_neg hsmall]
  split
  · exact List.mem_append_right _ (List.mem_append_left _ hexponent)
  · exact List.mem_append_right _ (List.mem_append_left _ hexponent)

/-- **A number without digits behind the point** is a numeral up to the twenty-first power of ten. -/
theorem scriptNumeral_eq_ofNat_iff (h : HasDigits s k) (hkn : (k : ℤ) ≤ n) (N : ℕ) :
    Text.ofNat N = scriptNumeral s k n ↔ n ≤ 21 ∧ N = s * 10 ^ (n - k).toNat := by
  have hpos := h.pos
  rcases le_or_gt n 21 with hle | hgt
  · have hwhole : scriptNumeral s k n = Text.ofNat (s * 10 ^ (n - k).toNat) := by
      rw [scriptNumeral, if_pos ⟨hkn, hle⟩, Text.ofNat_mul_ten_pow h.ne_zero]
    rw [hwhole]
    constructor
    · intro heq
      exact ⟨hle, Text.ofNat_injective heq⟩
    · rintro ⟨-, rfl⟩
      rfl
  · have hletter : 'e'.toNat ∈ scriptNumeral s k n :=
      letter_mem_scriptNumeral (by omega) (by omega) (by omega)
    constructor
    · intro heq
      rw [← heq] at hletter
      exact absurd (Text.digit_of_mem_ofNat hletter).2 (by decide)
    · rintro ⟨hle, -⟩
      omega

example : scriptNumeral 1 1 22 = "1e+21" ∧ scriptNumeral 12 2 21 = "120000000000000000000" := by decide

/-- Numerals of at least two digits need no zero in front. -/
theorem padLeft_two_eq_iff (N : ℕ) : Text.padLeft 2 '0'.toNat (Text.ofNat N) = Text.ofNat N ↔ 10 ≤ N := by
  have hone : (Text.ofNat N).length ≤ 1 ↔ N < 10 := Text.length_ofNat_le_iff (by decide)
  rw [Text.padLeft, List.append_left_eq_self, List.replicate_eq_nil_iff]
  omega

/-! ### Digits behind the point -/

theorem scriptNumeral_point (hnk : n < k) (hpoint : 0 < n) (hle : n ≤ 21) :
    scriptNumeral s k n = (Text.ofNat s).take n.toNat ++ '.'.toNat :: (Text.ofNat s).drop n.toNat := by
  have hwhole : ¬ ((k : ℤ) ≤ n ∧ n ≤ 21) := by omega
  simp only [scriptNumeral, if_neg hwhole, if_pos (And.intro hpoint hle)]

theorem scriptNumeral_zeros (hk : 0 < k) (hlow : -6 < n) (hzero : n ≤ 0) :
    scriptNumeral s k n = ("0." : Text) ++ List.replicate (-n).toNat '0'.toNat ++ Text.ofNat s := by
  have hwhole : ¬ ((k : ℤ) ≤ n ∧ n ≤ 21) := by omega
  have hpoint : ¬ (0 < n ∧ n ≤ 21) := by omega
  simp only [scriptNumeral, if_neg hwhole, if_neg hpoint, if_pos (And.intro hlow hzero)]

theorem scriptNumeral_exponent (h : HasDigits s k) (hn : n ≤ -6) :
    scriptNumeral s k n = (Text.ofNat s).take 1 ++
      (if ((Text.ofNat s).drop 1).isEmpty then [] else '.'.toNat :: (Text.ofNat s).drop 1) ++ ("e-" : Text) ++
        Text.ofNat (n - 1).natAbs := by
  have hlength := h.length_ofNat
  have hpos := h.pos
  have hwhole : ¬ ((k : ℤ) ≤ n ∧ n ≤ 21) := by omega
  have hpoint : ¬ (0 < n ∧ n ≤ 21) := by omega
  have hsmall : ¬ (-6 < n ∧ n ≤ 0) := by omega
  have hnegative : n - 1 < 0 := by omega
  simp only [scriptNumeral, if_neg hwhole, if_neg hpoint, if_neg hsmall, if_pos hnegative]
  by_cases hone : k = 1
  · have hdrop : (Text.ofNat s).drop 1 = [] := List.drop_eq_nil_of_le (by omega)
    have htake : (Text.ofNat s).take 1 = Text.ofNat s := List.take_of_length_le (by omega)
    simp [hone, hdrop, htake]
  · have hnil : ¬ ((Text.ofNat s).drop 1).isEmpty = true := by
      rw [List.isEmpty_iff, List.drop_eq_nil_iff]
      omega
    rw [if_neg hone, if_neg hnil]
    simp

example : scriptNumeral 15 2 (-6) = "1.5e-7" ∧ scriptNumeral 15 2 (-5) = "0.0000015" := by decide

/-- The plain layout of a number with digits behind the point, from a ten-thousandth on. -/
theorem plainLayout_digits_positional (h : HasDigits s k) (hnk : n < k) (hlow : -4 < n) (hn : n ≤ 16) :
    plainLayout.digits ⟨s, n - k⟩ =
      if 0 < n then (Text.ofNat s).take n.toNat ++ '.'.toNat :: (Text.ofNat s).drop n.toNat
      else ("0." : Text) ++ List.replicate (-n).toNat '0'.toNat ++ Text.ofNat s := by
  have hpositional : (decide (-4 ≤ n - 1) && decide (n - 1 < 16)) = true := by
    rw [Bool.and_eq_true, decide_eq_true_eq, decide_eq_true_eq]
    omega
  have hfraction : ¬ 0 ≤ n - k := by omega
  unfold Layout.digits plainLayout
  simp only [h.length_ofNat, if_pos hpositional, if_neg hfraction, sub_add_cancel]
  by_cases hpoint : 0 < n
  · rw [if_pos hpoint, if_pos (by omega)]
  · have hzeros : -(n - 1) - 1 = -n := by omega
    rw [if_neg hpoint, if_neg (by omega), hzeros]

/-- The plain layout of a number below a ten-thousandth. -/
theorem plainLayout_digits_exponent (h : HasDigits s k) (hn : n ≤ -4) :
    plainLayout.digits ⟨s, n - k⟩ = (Text.ofNat s).take 1 ++
      (if ((Text.ofNat s).drop 1).isEmpty then [] else '.'.toNat :: (Text.ofNat s).drop 1) ++ ("e-" : Text) ++
        Text.padLeft 2 '0'.toNat (Text.ofNat (n - 1).natAbs) := by
  have hpositional : ¬ (decide (-4 ≤ n - 1) && decide (n - 1 < 16)) = true := by
    rw [Bool.and_eq_true, decide_eq_true_eq, decide_eq_true_eq]
    omega
  have hnegative : n - 1 < 0 := by omega
  unfold Layout.digits plainLayout
  simp only [h.length_ofNat, sub_add_cancel, if_neg hpositional, if_pos hnegative]

/-- **A number with digits behind the point** is in the plain layout from a ten-thousandth on, and where its exponent
has two digits. -/
theorem scriptNumeral_eq_digits_iff (h : HasDigits s k) (hnk : n < k) (hn : n ≤ 16) :
    plainLayout.digits ⟨s, n - k⟩ = scriptNumeral s k n ↔ -4 < n ∨ n < -8 := by
  rcases lt_or_ge (-4) n with hplain | hexponent
  · -- Both are positional.
    refine iff_of_true ?_ (Or.inl hplain)
    rw [plainLayout_digits_positional h hnk hplain hn]
    by_cases hpoint : 0 < n
    · rw [if_pos hpoint, scriptNumeral_point hnk hpoint (by omega)]
    · rw [if_neg hpoint, scriptNumeral_zeros h.pos (by omega) (not_lt.1 hpoint)]
  · rw [plainLayout_digits_exponent h hexponent]
    rcases lt_or_ge (-6) n with hmore | hless
    · -- Only the plain layout has an exponent.
      refine iff_of_false ?_ (by omega)
      intro heq
      have hletter : 'e'.toNat ∈ scriptNumeral s k n := by
        rw [← heq]
        exact List.mem_append_left _ (List.mem_append_right _ (by decide))
      rw [scriptNumeral_zeros h.pos hmore (by omega)] at hletter
      rcases List.mem_append.1 hletter with hfront | hdigits
      · rcases List.mem_append.1 hfront with hpoint | hzero
        · exact absurd hpoint (by decide)
        · exact absurd (List.eq_of_mem_replicate hzero) (by decide)
      · exact absurd (Text.digit_of_mem_ofNat hdigits).2 (by decide)
    · -- Both have an exponent, and only the plain layout may have a zero in front of it.
      rw [scriptNumeral_exponent h hless, List.append_right_inj, padLeft_two_eq_iff]
      omega

/-! ## Commas -/

theorem comma_not_mem_ofNat (N : ℕ) : ','.toNat ∉ Text.ofNat N :=
  fun h => absurd (Text.digit_of_mem_ofNat h).1 (by decide)

theorem comma_not_mem_replicate (i : ℕ) : ','.toNat ∉ List.replicate i '0'.toNat :=
  fun h => absurd (List.eq_of_mem_replicate h) (by decide)

theorem comma_not_mem_take (N i : ℕ) : ','.toNat ∉ (Text.ofNat N).take i :=
  fun h => comma_not_mem_ofNat N (List.mem_of_mem_take h)

theorem comma_not_mem_point (N i : ℕ) : ','.toNat ∉ '.'.toNat :: (Text.ofNat N).drop i :=
  List.not_mem_cons_of_ne_of_not_mem (by decide) fun h => comma_not_mem_ofNat N (List.mem_of_mem_drop h)

theorem comma_not_mem_exponent (lead : ℤ) : ','.toNat ∉ (if lead < 0 then "e-" else "e+" : Text) := by
  split
  · decide
  · decide

/-- A number in a script holds no comma. -/
theorem comma_not_mem_scriptNumeral (s k : ℕ) (n : ℤ) : ','.toNat ∉ scriptNumeral s k n := by
  have hexponent := List.not_mem_append (comma_not_mem_exponent (n - 1)) (comma_not_mem_ofNat (n - 1).natAbs)
  unfold scriptNumeral
  dsimp only
  split
  · exact List.not_mem_append (comma_not_mem_ofNat s) (comma_not_mem_replicate _)
  · split
    · exact List.not_mem_append (comma_not_mem_take s _) (comma_not_mem_point s _)
    · split
      · exact List.not_mem_append (List.not_mem_append (by decide) (comma_not_mem_replicate _)) (comma_not_mem_ofNat s)
      · split
        · exact List.not_mem_append (comma_not_mem_ofNat s) hexponent
        · exact List.not_mem_append (List.not_mem_append (comma_not_mem_take s 1) (comma_not_mem_point s 1)) hexponent

/-- A number in the plain layout holds no comma. -/
theorem comma_not_mem_digits (d : Decimal) : ','.toNat ∉ plainLayout.digits d := by
  have hpad : ∀ width N : ℕ, ','.toNat ∉ Text.padLeft width '0'.toNat (Text.ofNat N) := fun width N =>
    List.not_mem_append (comma_not_mem_replicate _) (comma_not_mem_ofNat N)
  have htail : ','.toNat ∉ if ((Text.ofNat d.digits).drop 1).isEmpty then [] else
      '.'.toNat :: (Text.ofNat d.digits).drop 1 := by
    split
    · exact List.not_mem_nil
    · exact comma_not_mem_point _ 1
  unfold Layout.digits
  dsimp only
  split
  · split
    · exact List.not_mem_append (List.not_mem_append (comma_not_mem_ofNat _) (comma_not_mem_replicate _)) (by decide)
    · split
      · exact List.not_mem_append (comma_not_mem_take _ _) (comma_not_mem_point _ _)
      · exact List.not_mem_append (List.not_mem_append (by decide) (comma_not_mem_replicate _)) (comma_not_mem_ofNat _)
  · exact List.not_mem_append (List.not_mem_append (List.not_mem_append (comma_not_mem_take _ 1) htail)
      (comma_not_mem_exponent _)) (hpad _ _)

/-! ## The conversion of a datum -/

namespace Binary64

/-- **The conversion of a finite datum** to a text: zero of either sign is one digit, and the digits of any other datum
are laid out behind its sign. -/
inductive NumberString (x : Binary64) : Text → Prop where
  | zero (h : x.mantissa = 0) : NumberString x "0"
  | digits {s k : ℕ} {n : ℤ} (hm : 0 < x.mantissa) (h : x.IsDigits s k n) :
      NumberString x ((if x.negative then "-" else "" : Text) ++ scriptNumeral s k n)

/-- The data whose text in a script is their conversion: zero, numbers without a fraction below the twenty-first power
of ten that are equal to their shortest decimals, and numbers with a fraction from a ten-thousandth on or below a
billionth. -/
def SameInScript (x : Binary64) : Prop :=
  x.mantissa = 0 ∨
    (∃ N : ℕ, x.amount = N) ∧ x.amount < 10 ^ (21 : ℤ) ∧ x.shortest.number = x.amount ∨
      (∀ N : ℕ, x.amount ≠ N) ∧ (x.amount < 10 ^ (-9 : ℤ) ∨ 10 ^ (-4 : ℤ) ≤ x.amount)

variable {x : Binary64} {t : Text}

/-- **Every finite datum has one conversion.** -/
theorem exists_numberString (hx : x.isFinite = true) : ∃ t, ∀ u, x.NumberString u ↔ u = t := by
  rcases Nat.eq_zero_or_pos x.mantissa with hzero | hm
  · refine ⟨"0", fun u => ⟨?_, ?_⟩⟩
    · rintro (- | ⟨hm, -⟩)
      · rfl
      · exact absurd hzero hm.ne'
    · rintro rfl
      exact .zero hzero
  · obtain ⟨k, hk⟩ := isDigits_shortest hx hm
    refine ⟨(if x.negative then "-" else "" : Text) ++ scriptNumeral x.shortest.digits k (x.shortest.exponent + k),
      fun u => ⟨?_, ?_⟩⟩
    · rintro (hzero | ⟨-, h⟩)
      · exact absurd hzero hm.ne'
      · obtain ⟨hs, hk', hn⟩ := h.unique hk hx hm
        rw [hs, hk', hn]
    · rintro rfl
      exact .digits hm hk

/-- The text of a datum without a fraction. -/
theorem scriptText_whole (hx : x.isFinite = true) {N : ℕ} (hN : x.amount = N) (hpos : 0 < N) :
    (Value.float x).scriptText = (if x.negative then "-" else "" : Text) ++ Text.ofNat N := by
  have hint : x.toInt? = some (if x.negative then -(N : ℤ) else N) :=
    toInt?_eq_some_iff.2 ⟨hx, number_of_amount hN⟩
  unfold Value.scriptText
  rw [not_isNaN hx, hx, hint, if_neg Bool.false_ne_true, if_neg (by decide)]
  show Text.ofInt _ = _
  rw [Text.ofInt_eq]
  cases x.negative with
  | true =>
      have hneg : -(N : ℤ) < 0 := by omega
      rw [if_pos rfl, if_pos hneg, Int.natAbs_neg, Int.natAbs_natCast, if_pos rfl]
  | false => simp

/-- The text of a datum with a fraction. -/
theorem scriptText_fraction (hx : x.isFinite = true) (hm : 0 < x.mantissa) (hfraction : ∀ N : ℕ, x.amount ≠ N) :
    (Value.float x).scriptText = (if x.negative then "-" else "" : Text) ++ plainLayout.digits x.shortest := by
  have hint : x.toInt? = none := by
    cases hsome : x.toInt? with
    | none => rfl
    | some n =>
        obtain ⟨-, hn⟩ := toInt?_eq_some_iff.1 hsome
        refine absurd ?_ (hfraction n.natAbs)
        rw [← abs_number, hn, Nat.cast_natAbs, Int.cast_abs]
  unfold Value.scriptText
  rw [not_isNaN hx, hx, hint, if_neg Bool.false_ne_true, if_neg (by decide)]
  show plainLayout.render x = _
  unfold Layout.render
  rw [not_isNaN hx, hx, if_neg Bool.false_ne_true, if_neg (by simpa using hm.ne'), if_pos rfl]

/-- The datum nearest to a ten-thousandth is not below it. -/
theorem point_le_ten_thousandth {s k : ℕ} {n : ℤ} (h : x.IsDigits s k n) (hx : x.isFinite = true)
    (hm : 0 < x.mantissa) : n ≤ -4 ↔ x.amount < 10 ^ (-4 : ℤ) := by
  refine h.point_le_iff (y := ⟨false, 1009, 2875098002113325⟩) hx hm ?_ ?_ rfl
  · norm_num [amount, gapBelow, mantissa, scale, narrowBelow]
  · norm_num [amount, mantissa, scale]

/-- The datum nearest to a billionth is not below it. -/
theorem point_le_billionth {s k : ℕ} {n : ℤ} (h : x.IsDigits s k n) (hx : x.isFinite = true)
    (hm : 0 < x.mantissa) : n ≤ -9 ↔ x.amount < 10 ^ (-9 : ℤ) := by
  refine h.point_le_iff (y := ⟨false, 993, 332103651088021⟩) hx hm ?_ ?_ rfl
  · norm_num [amount, gapBelow, mantissa, scale, narrowBelow]
  · norm_num [amount, mantissa, scale]

theorem scriptText_zero (hx : x.isFinite = true) (hzero : x.mantissa = 0) : (Value.float x).scriptText = "0" := by
  have hnumber : x.number = ((0 : ℤ) : ℚ) := by
    rw [number, amount, hzero]
    simp
  unfold Value.scriptText
  rw [not_isNaN hx, hx, toInt?_eq_some_iff.2 ⟨hx, hnumber⟩]
  rfl

section

variable {s k : ℕ} {n : ℤ} (hx : x.isFinite = true) (hm : 0 < x.mantissa) (h : x.IsDigits s k n)

include hx hm h

/-- A number without a fraction is written as it is converted if no exponent is needed and its digits are exact. -/
theorem scriptText_whole_iff {N : ℕ} (hN : x.amount = N) :
    (Value.float x).scriptText = (if x.negative then "-" else "" : Text) ++ scriptNumeral s k n ↔
      x.amount < 10 ^ (21 : ℤ) ∧ x.shortest.number = x.amount := by
  have hpoint := h.whole hx hm hN
  have hnumber : x.shortest.number = ((s * 10 ^ (n - k).toNat : ℕ) : ℚ) := by
    rw [h.shortest_eq hx hm, Decimal.number, number_of_point_le hpoint]
  have hbelow : x.shortest.number < 10 ^ (21 : ℤ) ↔ n ≤ 21 := by
    rw [h.shortest_eq hx hm]
    exact lt_ten_zpow_iff h.digits n 21
  have hexact : N = s * 10 ^ (n - k).toNat ↔ x.shortest.number = x.amount := by
    rw [hnumber, hN, Nat.cast_inj, eq_comm]
  rw [scriptText_whole hx hN (pos_of_amount_eq hm hN), List.append_right_inj,
    scriptNumeral_eq_ofNat_iff h.digits hpoint, ← hbelow, hexact]
  exact and_congr_left fun heq => by rw [heq]

/-- A number with a fraction is written as it is converted if both need no exponent or both one of two digits. -/
theorem scriptText_fraction_iff (hfraction : ∀ N : ℕ, x.amount ≠ N) :
    (Value.float x).scriptText = (if x.negative then "-" else "" : Text) ++ scriptNumeral s k n ↔
      x.amount < 10 ^ (-9 : ℤ) ∨ 10 ^ (-4 : ℤ) ≤ x.amount := by
  obtain ⟨hpoint, hsize⟩ := h.fraction hx hm hfraction
  rw [scriptText_fraction hx hm hfraction, List.append_right_inj, h.shortest_eq hx hm,
    scriptNumeral_eq_digits_iff h.digits hpoint hsize, ← not_lt, ← point_le_ten_thousandth h hx hm,
    ← point_le_billionth h hx hm]
  omega

end

/-- **The text of a finite datum in a script** is its conversion for these data and no others. -/
theorem scriptText_float_iff (hx : x.isFinite = true) (h : x.NumberString t) :
    (Value.float x).scriptText = t ↔ x.SameInScript := by
  cases h with
  | zero hzero => exact iff_of_true (scriptText_zero hx hzero) (Or.inl hzero)
  | digits hm h =>
      by_cases hwhole : ∃ N : ℕ, x.amount = N
      · obtain ⟨N, hN⟩ := hwhole
        rw [scriptText_whole_iff hx hm h hN]
        constructor
        · intro hsame
          exact Or.inr (Or.inl ⟨⟨N, hN⟩, hsame⟩)
        · rintro (hzero | ⟨-, hsame⟩ | ⟨hfraction, -⟩)
          · exact absurd hzero hm.ne'
          · exact hsame
          · exact absurd hN (hfraction N)
      · have hfraction : ∀ N : ℕ, x.amount ≠ N := fun N hN => hwhole ⟨N, hN⟩
        rw [scriptText_fraction_iff hx hm h hfraction]
        constructor
        · intro hsame
          exact Or.inr (Or.inr ⟨hfraction, hsame⟩)
        · rintro (hzero | ⟨hother, -⟩ | ⟨-, hsame⟩)
          · exact absurd hzero hm.ne'
          · exact absurd hother hwhole
          · exact hsame

theorem comma_not_mem_sign (x : Binary64) : ','.toNat ∉ (if x.negative then "-" else "" : Text) := by
  split
  · decide
  · decide

/-- A conversion holds no comma. -/
theorem comma_not_mem_of_numberString (h : x.NumberString t) : ','.toNat ∉ t := by
  cases h with
  | zero => decide
  | digits => exact List.not_mem_append x.comma_not_mem_sign (comma_not_mem_scriptNumeral _ _ _)

/-- The text of a finite datum in a script holds no comma. -/
theorem comma_not_mem_scriptText (hx : x.isFinite = true) : ','.toNat ∉ (Value.float x).scriptText := by
  rcases Nat.eq_zero_or_pos x.mantissa with hzero | hm
  · rw [scriptText_zero hx hzero]
    decide
  · by_cases hwhole : ∃ N : ℕ, x.amount = N
    · obtain ⟨N, hN⟩ := hwhole
      rw [scriptText_whole hx hN (pos_of_amount_eq hm hN)]
      exact List.not_mem_append x.comma_not_mem_sign (comma_not_mem_ofNat N)
    · rw [scriptText_fraction hx hm fun N hN => hwhole ⟨N, hN⟩]
      exact List.not_mem_append x.comma_not_mem_sign (comma_not_mem_digits _)

/-- **Numbers without a fraction below the fifty-third power of two** are among these data. -/
theorem sameInScript_of_small (hx : x.isFinite = true) {N : ℕ} (hN : x.amount = N) (hsmall : N < 2 ^ 53) :
    x.SameInScript := by
  rcases Nat.eq_zero_or_pos x.mantissa with hzero | hm
  · exact Or.inl hzero
  · obtain ⟨k, h⟩ := isDigits_shortest hx hm
    have heq := h.eq_amount hx hm hN hsmall
    rw [add_sub_cancel_right] at heq
    refine Or.inr (Or.inl ⟨⟨N, hN⟩, ?_, heq.symm⟩)
    have hcast : (N : ℚ) < 2 ^ 53 := by exact_mod_cast hsmall
    rw [hN]
    exact hcast.trans (by norm_num)

end Binary64
end StepForge
