import StepForge.Proofs.Text.Utf8

/-!
# `StepForge.Proofs.Text.Decoding` — what is read was written in UTF-8

A form that is read as a code point is the one in which this code point is written: there is no second
spelling of it. So bytes are those of a text exactly if the text is what they are read as.

## Contents
- `encodePoint?_two` to `encodePoint?_four`, `encodePoint?_firstForm` — the form of a code point is its bytes.
- `decode_eq_ok_iff` — decoding undoes encoding, and encoding undoes decoding.
-/

namespace StepForge.Utf8

/-! ## Bytes out of numbers -/

theorem ofNat_eq {n : Nat} {a : UInt8} (h : n = a.toNat) : UInt8.ofNat n = a := by
  rw [h, UInt8.ofNat_toNat]

theorem tailByte_eq {n : Nat} {b : UInt8} (h : 0x80 + n % 0x40 = b.toNat) : tailByte n = b := by
  apply UInt8.toNat_inj.1
  rw [toNat_tailByte, h]

theorem isTail_iff {b : UInt8} : isTail b = true ↔ 0x80 ≤ b.toNat ∧ b.toNat ≤ 0xBF := by
  simp only [isTail, Bool.and_eq_true, decide_eq_true_eq, UInt8.le_iff_toNat_le, UInt8.reduceToNat]

/-- A second byte has the bounds of a byte behind the first one, and those that the first byte asks for. -/
theorem bounds_of_isSecond {a b : UInt8} (h : isSecond a b = true) :
    (0x80 ≤ b.toNat ∧ b.toNat ≤ 0xBF) ∧ (a.toNat = 0xE0 → 0xA0 ≤ b.toNat) ∧
      (a.toNat = 0xED → b.toNat ≤ 0x9F) ∧ (a.toNat = 0xF0 → 0x90 ≤ b.toNat) ∧
      (a.toNat = 0xF4 → b.toNat ≤ 0x8F) := by
  have heq : ∀ x : UInt8, a = x ↔ a.toNat = x.toNat := fun x => UInt8.toNat_inj.symm
  simp only [isSecond, isTail, heq, UInt8.le_iff_toNat_le, UInt8.reduceToNat] at h
  split at h
  · simp only [Bool.and_eq_true, decide_eq_true_eq] at h
    omega
  · split at h
    · simp only [Bool.and_eq_true, decide_eq_true_eq] at h
      omega
    · split at h
      · simp only [Bool.and_eq_true, decide_eq_true_eq] at h
        omega
      · split at h
        · simp only [Bool.and_eq_true, decide_eq_true_eq] at h
          omega
        · simp only [Bool.and_eq_true, decide_eq_true_eq] at h
          omega

/-! ## Code points of several bytes -/

variable {a b c d : UInt8}

theorem encodePoint?_two (hlow : 0xC2 ≤ a.toNat) (hhigh : a.toNat < 0xE0)
    (hb : 0x80 ≤ b.toNat ∧ b.toNat ≤ 0xBF) :
    encodePoint? ((a.toNat - 0xC0) * 0x40 + tailBits b) = some [a, b] := by
  unfold tailBits
  generalize hn : (a.toNat - 0xC0) * 0x40 + (b.toNat - 0x80) = n
  have hone : ¬ n < 0x80 := by omega
  have htwo : n < 0x800 := by omega
  unfold encodePoint?
  rw [if_neg hone, if_pos htwo, ofNat_eq (a := a) (by omega), tailByte_eq (b := b) (by omega)]

theorem encodePoint?_three (hlow : 0xE0 ≤ a.toNat) (hhigh : a.toNat < 0xF0) (hab : isSecond a b = true)
    (hc : 0x80 ≤ c.toNat ∧ c.toNat ≤ 0xBF) :
    encodePoint? ((a.toNat - 0xE0) * 0x1000 + tailBits b * 0x40 + tailBits c) = some [a, b, c] := by
  obtain ⟨hb, hE0, hED, _, _⟩ := bounds_of_isSecond hab
  unfold tailBits
  generalize hn : (a.toNat - 0xE0) * 0x1000 + (b.toNat - 0x80) * 0x40 + (c.toNat - 0x80) = n
  have hone : ¬ n < 0x80 := by omega
  have htwo : ¬ n < 0x800 := by omega
  have hwhole : ¬ isSurrogate n = true := by
    rw [isSurrogate_iff]
    omega
  have hthree : n < 0x10000 := by omega
  unfold encodePoint?
  rw [if_neg hone, if_neg htwo, if_neg hwhole, if_pos hthree, ofNat_eq (a := a) (by omega),
    tailByte_eq (b := b) (by omega), tailByte_eq (b := c) (by omega)]

theorem encodePoint?_four (hlow : 0xF0 ≤ a.toNat) (hhigh : a.toNat ≤ 0xF4) (hab : isSecond a b = true)
    (hc : 0x80 ≤ c.toNat ∧ c.toNat ≤ 0xBF) (hd : 0x80 ≤ d.toNat ∧ d.toNat ≤ 0xBF) :
    encodePoint? ((a.toNat - 0xF0) * 0x40000 + tailBits b * 0x1000 + tailBits c * 0x40 + tailBits d) =
      some [a, b, c, d] := by
  obtain ⟨hb, _, _, hF0, hF4⟩ := bounds_of_isSecond hab
  unfold tailBits
  generalize hn : (a.toNat - 0xF0) * 0x40000 + (b.toNat - 0x80) * 0x1000 + (c.toNat - 0x80) * 0x40
    + (d.toNat - 0x80) = n
  have hone : ¬ n < 0x80 := by omega
  have htwo : ¬ n < 0x800 := by omega
  have hwhole : ¬ isSurrogate n = true := by
    rw [isSurrogate_iff]
    omega
  have hthree : ¬ n < 0x10000 := by omega
  have hfour : n < 0x110000 := by omega
  unfold encodePoint?
  rw [if_neg hone, if_neg htwo, if_neg hwhole, if_neg hthree, if_pos hfour, ofNat_eq (a := a) (by omega),
    tailByte_eq (b := b) (by omega), tailByte_eq (b := c) (by omega), tailByte_eq (b := d) (by omega)]

/-- **The form of a code point is its bytes.** -/
theorem encodePoint?_firstForm {rest : List UInt8} {n width : Nat} (h : firstForm a rest = .point n width) :
    ∃ tail more, rest = tail ++ more ∧ width = tail.length + 1 ∧ encodePoint? n = some (a :: tail) := by
  -- The bytes are looked at one after another, and every branch that is left is a form of one byte more.
  unfold firstForm at h
  split at h
  · next hone =>
      cases h
      have hlt : a.toNat < 0x80 := (lt_iff_of_toNat rfl rfl).1 hone
      refine ⟨[], rest, rfl, rfl, ?_⟩
      rw [encodePoint?, if_pos hlt, UInt8.ofNat_toNat]
  split at h
  · cases h
  rename_i hfirst
  have hbounds : 0xC2 ≤ a.toNat ∧ a.toNat ≤ 0xF4 := by
    simp only [Bool.or_eq_true, decide_eq_true_eq, UInt8.lt_iff_toNat_lt, UInt8.reduceToNat] at hfirst
    omega
  obtain _ | ⟨b, rest⟩ := rest
  · cases h
  dsimp only at h
  split at h
  · cases h
  rename_i hsecond
  have hab : isSecond a b = true := by simpa using hsecond
  split at h
  · next htwo =>
      obtain ⟨rfl, rfl⟩ := Form.point.inj h
      have hlt : a.toNat < 0xE0 := (lt_iff_of_toNat rfl rfl).1 htwo
      exact ⟨[b], rest, rfl, rfl, encodePoint?_two hbounds.1 hlt (bounds_of_isSecond hab).1⟩
  rename_i htwo
  have hlow : 0xE0 ≤ a.toNat := Nat.le_of_not_lt fun hlt => htwo ((lt_iff_of_toNat rfl rfl).2 hlt)
  obtain _ | ⟨c, rest⟩ := rest
  · cases h
  dsimp only at h
  split at h
  · cases h
  rename_i hthird
  have hc : isTail c = true := by simpa using hthird
  split at h
  · next hthree =>
      obtain ⟨rfl, rfl⟩ := Form.point.inj h
      have hlt : a.toNat < 0xF0 := (lt_iff_of_toNat rfl rfl).1 hthree
      exact ⟨[b, c], rest, rfl, rfl, encodePoint?_three hlow hlt hab (isTail_iff.1 hc)⟩
  rename_i hthree
  have hlast : 0xF0 ≤ a.toNat := Nat.le_of_not_lt fun hlt => hthree ((lt_iff_of_toNat rfl rfl).2 hlt)
  obtain _ | ⟨d, rest⟩ := rest
  · cases h
  dsimp only at h
  split at h
  · cases h
  rename_i hfourth
  have hd : isTail d = true := by simpa using hfourth
  obtain ⟨rfl, rfl⟩ := Form.point.inj h
  exact ⟨[b, c, d], rest, rfl, rfl, encodePoint?_four hlast hbounds.2 hab (isTail_iff.1 hc) (isTail_iff.1 hd)⟩

/-! ## Texts -/

/-- Bytes whose forms are those of a text are the bytes of the text. -/
theorem encodeFrom_of_textOfForms {bytes : List UInt8} {t : Text} {start : Nat}
    (h : textOfForms start (formsFrom 0 bytes) = .ok t) (position : Nat) : encodeFrom position t = .ok bytes := by
  -- A form takes at least one byte, so the induction is on the number of bytes that are left.
  induction hsize : bytes.length using Nat.strongRecOn generalizing bytes t start position with
  | ind size ih =>
      cases bytes with
      | nil =>
          cases h
          rfl
      | cons a rest =>
          have hforms : formsFrom 0 (a :: rest) = firstForm a rest :: formsFrom ((firstForm a rest).width - 1) rest :=
            rfl
          rw [hforms] at h
          cases hform : firstForm a rest with
          | faulty faulty reason =>
              rw [hform] at h
              cases h
          | point n width =>
              obtain ⟨tail, more, rfl, rfl, hpoint⟩ := encodePoint?_firstForm hform
              have hskip : formsFrom ((firstForm a (tail ++ more)).width - 1) (tail ++ more) = formsFrom 0 more := by
                rw [hform]
                exact formsFrom_length tail more
              rw [hskip, hform] at h
              have h : (textOfForms (start + (tail.length + 1)) (formsFrom 0 more)).map (n :: ·) = .ok t := h
              cases hrest : textOfForms (start + (tail.length + 1)) (formsFrom 0 more) with
              | error fault =>
                  rw [hrest] at h
                  cases h
              | ok u =>
                  rw [hrest] at h
                  cases h
                  have hless : more.length < size := by
                    rw [← hsize, List.length_cons, List.length_append]
                    omega
                  rw [encodeFrom, hpoint, ih _ hless hrest (position + 1) rfl]
                  rfl

/-- **Bytes are read as a text exactly if the text is written as them.** -/
theorem decode_eq_ok_iff {bytes : List UInt8} {t : Text} : decode bytes = .ok t ↔ encode t = .ok bytes :=
  ⟨fun h => encodeFrom_of_textOfForms h 0, decode_encode⟩

end StepForge.Utf8
