import Mathlib.Algebra.Ring.Nat
import StepForge.Text.Basic

/-!
# `StepForge.Proofs.Text.Numeral` — the decimal digits of a number

A natural number is written in decimal digits, and a negative integer with a minus sign in front. No two numbers are
written alike, a power of ten is a number of zeros, and the length of a numeral tells between which powers of ten the
number lies.

## Contents
- `digit_of_mem_ofNat` — what a numeral is made of.
- `ofNat_injective`, `ofInt_eq` — numerals of one number.
- `ofNat_mul_ten_pow` — zeros at the end.
- `length_ofNat_le_iff` — the length of a numeral.
-/

namespace StepForge.Text

/-- **A numeral is made of digits.** -/
theorem digit_of_mem_ofNat {n : Nat} {c : CodePoint} (h : c ∈ ofNat n) : 48 ≤ c ∧ c ≤ 57 := by
  obtain ⟨digit, hdigit, rfl⟩ := List.mem_map.1 h
  have hisDigit := Nat.isDigit_of_mem_toDigits (by decide) (by decide) hdigit
  simpa [Char.isDigit, UInt32.le_iff_toNat_le] using hisDigit

/-- **No two numbers are written alike.** -/
theorem ofNat_injective {m n : Nat} (h : ofNat m = ofNat n) : m = n := by
  have hchars : Nat.toDigits 10 m = Nat.toDigits 10 n :=
    (List.map_inj_right fun _ _ hc => Char.toNat_inj.1 hc).1 h
  rw [← Nat.ofDigitChars_ten_toDigits (n := m), hchars, Nat.ofDigitChars_ten_toDigits]

/-- **A power of ten** is a number of zeros. -/
theorem ofNat_mul_ten_pow {n : Nat} (hn : 0 < n) (t : Nat) :
    ofNat (n * 10 ^ t) = ofNat n ++ List.replicate t '0'.toNat := by
  induction t with
  | zero => simp
  | succ t ih =>
      have hpos : 0 < n * 10 ^ t := Nat.mul_pos hn (Nat.pow_pos (by decide))
      have hstep : ofNat (n * 10 ^ t * 10) = ofNat (n * 10 ^ t) ++ ['0'.toNat] := by
        have hle : 10 ≤ n * 10 ^ t * 10 := Nat.le_mul_of_pos_left 10 hpos
        unfold ofNat
        rw [Nat.toDigits_of_base_le (by decide) hle, Nat.mul_div_cancel _ (by decide), Nat.mul_mod_left, List.map_append]
        rfl
      rw [Nat.pow_succ, ← Nat.mul_assoc, hstep, ih, List.append_assoc, List.replicate_succ']

/-- **The length of a numeral** tells below which power of ten the number lies. -/
theorem length_ofNat_le_iff {n k : Nat} (hk : 0 < k) : (ofNat n).length ≤ k ↔ n < 10 ^ k := by
  rw [ofNat, List.length_map]
  exact Nat.length_toDigits_le_iff (by decide) hk

theorem length_ofNat_pos (n : Nat) : 0 < (ofNat n).length := by
  rw [ofNat, List.length_map]
  exact Nat.length_toDigits_pos

/-- An integer with its sign. -/
theorem ofInt_eq (n : Int) : ofInt n = (if n < 0 then "-" else "" : Text) ++ ofNat n.natAbs := by
  cases n with
  | ofNat n => rfl
  | negSucc n =>
      rw [if_pos (Int.negSucc_lt_zero n)]
      rfl

end StepForge.Text
