import StepForge.Text.Utf8

/-!
# `StepForge.Proofs.Text.Utf8` — what is written in UTF-8 is read back

The bytes of a code point are one form, and no byte behind them is needed to see where it ends. So bytes
that a text was written as are cut into the forms of its code points, and decoding undoes encoding.

## Contents
- `encodePoint?_cases` — the four kinds of forms.
- `firstForm_one` to `firstForm_four`, `firstForm_encodePoint` — the bytes of a code point are its form.
- `decode_encode` — decoding undoes encoding.
- `exists_encode` — texts that can be written.
- `encodePoint?_isSome_iff`, `encode_ofString`, `exists_encode_iff` — the bytes of strings, and that no other texts have bytes.
-/

namespace StepForge.Utf8

/-! ## Bytes as numbers -/

theorem toNat_ofNat_of_lt {n : Nat} (h : n < 256) : (UInt8.ofNat n).toNat = n := by
  rw [UInt8.toNat_ofNat']
  exact Nat.mod_eq_of_lt h

theorem toNat_tailByte (bits : Nat) : (tailByte bits).toNat = 0x80 + bits % 0x40 := by
  have hmod : bits % 0x40 < 0x40 := Nat.mod_lt _ (by decide)
  have hlt : 0x80 + bits % 0x40 < 256 := by omega
  unfold tailByte
  exact toNat_ofNat_of_lt hlt

theorem tailBits_tailByte (bits : Nat) : tailBits (tailByte bits) = bits % 0x40 := by
  unfold tailBits
  rw [toNat_tailByte, Nat.add_sub_cancel_left]

theorem isTail_tailByte (bits : Nat) : isTail (tailByte bits) = true := by
  have hmod : bits % 0x40 < 0x40 := Nat.mod_lt _ (by decide)
  simp only [isTail, Bool.and_eq_true, decide_eq_true_eq, UInt8.le_iff_toNat_le, toNat_tailByte,
    UInt8.reduceToNat]
  omega

/-- A byte of a form can be the second one, unless the first byte asks for more. -/
theorem isSecond_of_bounds {a b : UInt8} (htail : 0x80 ≤ b.toNat ∧ b.toNat ≤ 0xBF)
    (hE0 : a.toNat = 0xE0 → 0xA0 ≤ b.toNat) (hED : a.toNat = 0xED → b.toNat ≤ 0x9F)
    (hF0 : a.toNat = 0xF0 → 0x90 ≤ b.toNat) (hF4 : a.toNat = 0xF4 → b.toNat ≤ 0x8F) :
    isSecond a b = true := by
  have heq : ∀ x : UInt8, a = x ↔ a.toNat = x.toNat := fun x => UInt8.toNat_inj.symm
  simp only [isSecond, isTail, heq, UInt8.le_iff_toNat_le, UInt8.reduceToNat]
  split
  · next h => simp [hE0 h, htail.2]
  · split
    · next h => simp [hED h, htail.1]
    · split
      · next h => simp [hF0 h, htail.2]
      · split
        · next h => simp [hF4 h, htail.1]
        · simp [htail]

/-! ## Forms -/

theorem isSurrogate_iff {c : Nat} : isSurrogate c = true ↔ 0xD800 ≤ c ∧ c ≤ 0xDFFF := by
  rw [isSurrogate, Bool.and_eq_true, decide_eq_true_eq, decide_eq_true_eq]

/-- **The four kinds of forms** of code points. -/
theorem encodePoint?_cases {c : Nat} {bytes : List UInt8} (h : encodePoint? c = some bytes) :
    (c < 0x80 ∧ bytes = [UInt8.ofNat c]) ∨
      (0x80 ≤ c ∧ c < 0x800 ∧ bytes = [UInt8.ofNat (0xC0 + c / 0x40), tailByte c]) ∨
      (0x800 ≤ c ∧ c < 0x10000 ∧ (c < 0xD800 ∨ 0xDFFF < c) ∧
        bytes = [UInt8.ofNat (0xE0 + c / 0x1000), tailByte (c / 0x40), tailByte c]) ∨
      (0x10000 ≤ c ∧ c < 0x110000 ∧
        bytes = [UInt8.ofNat (0xF0 + c / 0x40000), tailByte (c / 0x1000), tailByte (c / 0x40),
          tailByte c]) := by
  unfold encodePoint? isSurrogate at h
  by_cases h1 : c < 0x80
  · rw [if_pos h1] at h
    exact Or.inl ⟨h1, (Option.some.inj h).symm⟩
  · rw [if_neg h1] at h
    by_cases h2 : c < 0x800
    · rw [if_pos h2] at h
      exact Or.inr (Or.inl ⟨by omega, h2, (Option.some.inj h).symm⟩)
    · rw [if_neg h2] at h
      by_cases hs : 0xD800 ≤ c ∧ c ≤ 0xDFFF
      · rw [if_pos (by simpa using hs)] at h
        cases h
      · rw [if_neg (by simpa using hs)] at h
        by_cases h3 : c < 0x10000
        · rw [if_pos h3] at h
          exact Or.inr (Or.inr (Or.inl ⟨by omega, h3, by omega, (Option.some.inj h).symm⟩))
        · rw [if_neg h3] at h
          by_cases h4 : c < 0x110000
          · rw [if_pos h4] at h
            exact Or.inr (Or.inr (Or.inr ⟨by omega, h4, (Option.some.inj h).symm⟩))
          · rw [if_neg h4] at h
            cases h

theorem lt_iff_of_toNat {a b : UInt8} {m n : Nat} (ha : a.toNat = m) (hb : b.toNat = n) :
    a < b ↔ m < n := by
  rw [UInt8.lt_iff_toNat_lt, ha, hb]

/-- A byte from these bounds begins a form of several bytes. -/
theorem first_of_bounds {a : UInt8} {n : Nat} (ha : a.toNat = n) (hlow : 0xC2 ≤ n) (hhigh : n ≤ 0xF4) :
    ¬ a < 0x80 ∧ ¬ (a < 0xC2 || 0xF4 < a) = true := by
  rw [Bool.or_eq_true, decide_eq_true_eq, decide_eq_true_eq, lt_iff_of_toNat ha rfl, lt_iff_of_toNat ha rfl,
    lt_iff_of_toNat rfl ha]
  simp only [UInt8.reduceToNat]
  omega

theorem firstForm_one {c : Nat} (hc : c < 0x80) (rest : List UInt8) :
    firstForm (UInt8.ofNat c) rest = .point c 1 := by
  have ha := toNat_ofNat_of_lt (n := c) (by omega)
  have hone : UInt8.ofNat c < 0x80 := (lt_iff_of_toNat ha rfl).2 hc
  unfold firstForm
  rw [if_pos hone, ha]

theorem firstForm_two {c : Nat} (hlow : 0x80 ≤ c) (hc : c < 0x800) (rest : List UInt8) :
    firstForm (UInt8.ofNat (0xC0 + c / 0x40)) (tailByte c :: rest) = .point c 2 := by
  have ha := toNat_ofNat_of_lt (n := 0xC0 + c / 0x40) (by omega)
  generalize UInt8.ofNat (0xC0 + c / 0x40) = a at ha ⊢
  obtain ⟨hone, hfirst⟩ := first_of_bounds ha (by omega) (by omega)
  have hsecond : isSecond a (tailByte c) = true := by
    apply isSecond_of_bounds <;> rw [toNat_tailByte] <;> omega
  have htwo : a < 0xE0 := (lt_iff_of_toNat ha rfl).2 (show _ < 0xE0 by omega)
  have hcode : (0xC0 + c / 0x40 - 0xC0) * 0x40 + c % 0x40 = c := by omega
  unfold firstForm
  rw [if_neg hone, if_neg hfirst]
  simp only [hsecond, Bool.not_true, Bool.false_eq_true, if_false, if_pos htwo, ha, tailBits_tailByte]
  rw [hcode]

theorem firstForm_three {c : Nat} (hlow : 0x800 ≤ c) (hc : c < 0x10000) (hs : c < 0xD800 ∨ 0xDFFF < c)
    (rest : List UInt8) :
    firstForm (UInt8.ofNat (0xE0 + c / 0x1000)) (tailByte (c / 0x40) :: tailByte c :: rest) = .point c 3 := by
  have ha := toNat_ofNat_of_lt (n := 0xE0 + c / 0x1000) (by omega)
  generalize UInt8.ofNat (0xE0 + c / 0x1000) = a at ha ⊢
  obtain ⟨hone, hfirst⟩ := first_of_bounds ha (by omega) (by omega)
  -- The first forms of three bytes and the forms in front of the surrogates have narrower second bytes.
  have hsecond : isSecond a (tailByte (c / 0x40)) = true := by
    apply isSecond_of_bounds <;> rw [toNat_tailByte] <;> omega
  have htwo : ¬ a < 0xE0 := fun h => absurd ((lt_iff_of_toNat ha rfl).1 h) (show ¬ _ < 0xE0 by omega)
  have hthree : a < 0xF0 := (lt_iff_of_toNat ha rfl).2 (show _ < 0xF0 by omega)
  have hcode : (0xE0 + c / 0x1000 - 0xE0) * 0x1000 + c / 0x40 % 0x40 * 0x40 + c % 0x40 = c := by omega
  unfold firstForm
  rw [if_neg hone, if_neg hfirst]
  simp only [hsecond, isTail_tailByte, Bool.not_true, Bool.false_eq_true, if_false, if_neg htwo, if_pos hthree,
    ha, tailBits_tailByte]
  rw [hcode]

theorem firstForm_four {c : Nat} (hlow : 0x10000 ≤ c) (hc : c < 0x110000) (rest : List UInt8) :
    firstForm (UInt8.ofNat (0xF0 + c / 0x40000))
      (tailByte (c / 0x1000) :: tailByte (c / 0x40) :: tailByte c :: rest) = .point c 4 := by
  have ha := toNat_ofNat_of_lt (n := 0xF0 + c / 0x40000) (by omega)
  generalize UInt8.ofNat (0xF0 + c / 0x40000) = a at ha ⊢
  obtain ⟨hone, hfirst⟩ := first_of_bounds ha (by omega) (by omega)
  have hsecond : isSecond a (tailByte (c / 0x1000)) = true := by
    apply isSecond_of_bounds <;> rw [toNat_tailByte] <;> omega
  have htwo : ¬ a < 0xE0 := fun h => absurd ((lt_iff_of_toNat ha rfl).1 h) (show ¬ _ < 0xE0 by omega)
  have hthree : ¬ a < 0xF0 := fun h => absurd ((lt_iff_of_toNat ha rfl).1 h) (show ¬ _ < 0xF0 by omega)
  have hcode : (0xF0 + c / 0x40000 - 0xF0) * 0x40000 + c / 0x1000 % 0x40 * 0x1000
      + c / 0x40 % 0x40 * 0x40 + c % 0x40 = c := by omega
  unfold firstForm
  rw [if_neg hone, if_neg hfirst]
  simp only [hsecond, isTail_tailByte, Bool.not_true, Bool.false_eq_true, if_false, if_neg htwo, if_neg hthree,
    ha, tailBits_tailByte]
  rw [hcode]

/-- **The bytes of a code point are its form**, whatever stands behind them. -/
theorem firstForm_encodePoint {c : Nat} {a : UInt8} {tail : List UInt8}
    (h : encodePoint? c = some (a :: tail)) (rest : List UInt8) :
    firstForm a (tail ++ rest) = .point c (tail.length + 1) := by
  rcases encodePoint?_cases h with ⟨hc, hb⟩ | ⟨hlow, hc, hb⟩ | ⟨hlow, hc, hs, hb⟩ | ⟨hlow, hc, hb⟩
  · cases hb
    exact firstForm_one hc rest
  · cases hb
    exact firstForm_two hlow hc rest
  · cases hb
    exact firstForm_three hlow hc hs rest
  · cases hb
    exact firstForm_four hlow hc rest

/-! ## Texts -/

theorem formsFrom_length (skipped rest : List UInt8) :
    formsFrom skipped.length (skipped ++ rest) = formsFrom 0 rest := by
  induction skipped with
  | nil => rfl
  | cons b skipped ih => exact ih

theorem encodePoint?_ne_nil {c : Nat} : encodePoint? c ≠ some [] := by
  intro h
  rcases encodePoint?_cases h with ⟨_, hb⟩ | ⟨_, _, hb⟩ | ⟨_, _, _, hb⟩ | ⟨_, _, hb⟩
  all_goals cases hb

/-- The bytes of a text are cut into the forms of its code points. -/
theorem textOfForms_encodeFrom {t : Text} {position : Nat} {bytes : List UInt8}
    (h : encodeFrom position t = .ok bytes) (start : Nat) :
    textOfForms start (formsFrom 0 bytes) = .ok t := by
  induction t generalizing position bytes start with
  | nil =>
      cases h
      rfl
  | cons c t ih =>
      unfold encodeFrom at h
      split at h
      · next point hpoint =>
          cases hrest : encodeFrom (position + 1) t with
          | error fault =>
              rw [hrest] at h
              cases h
          | ok rest =>
              rw [hrest] at h
              cases h
              cases point with
              | nil => exact absurd hpoint encodePoint?_ne_nil
              | cons a tail =>
                  have hform := firstForm_encodePoint hpoint rest
                  show textOfForms start (firstForm a (tail ++ rest) ::
                    formsFrom ((firstForm a (tail ++ rest)).width - 1) (tail ++ rest)) = _
                  rw [hform]
                  show (textOfForms _ (formsFrom tail.length (tail ++ rest))).map (c :: ·) = _
                  rw [formsFrom_length, ih hrest]
                  rfl
      · cases h

/-- **Decoding undoes encoding.** -/
theorem decode_encode {t : Text} {bytes : List UInt8} (h : encode t = .ok bytes) :
    decode bytes = .ok t := textOfForms_encodeFrom h 0

/-- A text whose code points all have forms can be written. -/
theorem exists_encode {t : Text} (h : ∀ c ∈ t, (encodePoint? c).isSome) :
    ∃ bytes, encode t = .ok bytes := by
  unfold encode
  generalize 0 = position
  induction t generalizing position with
  | nil => exact ⟨[], rfl⟩
  | cons c t ih =>
      obtain ⟨point, hpoint⟩ := Option.isSome_iff_exists.1 (h c (by simp))
      obtain ⟨rest, hrest⟩ := ih (fun d hd => h d (List.mem_cons_of_mem c hd)) (position + 1)
      refine ⟨point ++ rest, ?_⟩
      unfold encodeFrom
      rw [hpoint, hrest]
      rfl

/-- All code points of a text that was written have forms. -/
theorem encodePoint?_of_encode {t : Text} {bytes : List UInt8} (h : encode t = .ok bytes) {c : CodePoint} (hc : c ∈ t) :
    (encodePoint? c).isSome = true := by
  unfold encode at h
  generalize 0 = position at h
  induction t generalizing position bytes with
  | nil => cases hc
  | cons d t ih =>
      unfold encodeFrom at h
      cases hpoint : encodePoint? d with
      | none =>
          rw [hpoint] at h
          cases h
      | some point =>
          rw [hpoint] at h
          dsimp only at h
          cases hrest : encodeFrom (position + 1) t with
          | error f =>
              rw [hrest] at h
              cases h
          | ok rest =>
              rcases List.mem_cons.1 hc with rfl | hc
              · rw [hpoint]
                rfl
              · exact ih hc _ hrest

/-! ## Strings -/

theorem tailByte_eq_ofNat (bits : Nat) : tailByte bits = UInt8.ofNat (bits % 0x40 + 0x80) := by
  rw [tailByte, Nat.add_comm]

/-- **The form of a character** is the one that strings are held in. -/
theorem encodePoint?_toNat (char : Char) : encodePoint? char.toNat = some (String.utf8EncodeChar char) := by
  have hvalid : char.toNat < 0xD800 ∨ 0xDFFF < char.toNat ∧ char.toNat < 0x110000 := char.valid
  have hvalue : char.val.toNat = char.toNat := rfl
  unfold encodePoint? String.utf8EncodeChar
  rw [hvalue]
  generalize char.toNat = n at hvalid
  have hwhole : ¬ isSurrogate n = true := by
    rw [isSurrogate_iff]
    omega
  simp only [tailByte_eq_ofNat, if_neg hwhole]
  -- The first byte holds the highest bits of the code point, and there are no higher ones to be cut off.
  by_cases hone : n < 0x80
  · rw [if_pos hone, if_pos (by omega)]
  by_cases htwo : n < 0x800
  · have hfirst : 0xC0 + n / 0x40 = n / 64 % 0x20 + 0xC0 := by omega
    rw [if_neg hone, if_pos htwo, if_neg (by omega), if_pos (by omega), hfirst]
  by_cases hthree : n < 0x10000
  · have hfirst : 0xE0 + n / 0x1000 = n / 4096 % 0x10 + 0xE0 := by omega
    rw [if_neg hone, if_neg htwo, if_pos hthree, if_neg (by omega), if_neg (by omega), if_pos (by omega), hfirst]
  · have hlast : n < 0x110000 := by omega
    have hfirst : 0xF0 + n / 0x40000 = n / 262144 % 0x08 + 0xF0 := by omega
    rw [if_neg hone, if_neg htwo, if_neg hthree, if_pos hlast, if_neg (by omega), if_neg (by omega),
      if_neg (by omega), hfirst]

/-- **Code points that have a form** are the Unicode scalar values. -/
theorem encodePoint?_isSome_iff {c : Nat} : (encodePoint? c).isSome = true ↔ c.isValidChar := by
  constructor
  · intro h
    obtain ⟨point, hpoint⟩ := Option.isSome_iff_exists.1 h
    unfold Nat.isValidChar
    rcases encodePoint?_cases hpoint with ⟨hc, _⟩ | ⟨_, hc, _⟩ | ⟨_, hc, hs, _⟩ | ⟨hlow, hc, _⟩
    all_goals omega
  · intro h
    show (encodePoint? (Char.ofNatAux c h).toNat).isSome = true
    rw [encodePoint?_toNat]
    rfl

/-- What is written as a string can be written as bytes. -/
theorem encodePoint?_of_mem_ofString {s : String} {c : Nat} (h : c ∈ Text.ofString s) :
    (encodePoint? c).isSome := by
  obtain ⟨char, _, rfl⟩ := List.mem_map.1 h
  rw [encodePoint?_toNat]
  rfl

theorem encodeFrom_map_toNat (position : Nat) (cs : List Char) :
    encodeFrom position (cs.map Char.toNat) = .ok (cs.flatMap String.utf8EncodeChar) := by
  induction cs generalizing position with
  | nil => rfl
  | cons c cs ih =>
      rw [List.map_cons, encodeFrom, encodePoint?_toNat, List.flatMap_cons]
      dsimp only
      rw [ih]
      rfl

/-- **A string is written as the bytes that it is held in.** -/
theorem encode_ofString (s : String) : encode (Text.ofString s) = .ok s.toUTF8.data.toList := by
  have hbytes : s.toUTF8.data.toList = s.toList.flatMap String.utf8EncodeChar := by
    rw [String.toUTF8_eq_toByteArray]
    conv => lhs; rw [← String.ofList_toList (s := s)]
    exact List.toList_data_toByteArray
  rw [hbytes]
  exact encodeFrom_map_toNat 0 s.toList

/-- **A text can be written** exactly if it is a string: its code points are Unicode scalar values. -/
theorem exists_encode_iff {t : Text} : (∃ bytes, encode t = .ok bytes) ↔ ∃ s, t = Text.ofString s := by
  constructor
  · rintro ⟨bytes, h⟩
    have hvalid : ∀ c ∈ t, Nat.isValidChar c := fun c hc => encodePoint?_isSome_iff.1 (encodePoint?_of_encode h hc)
    refine ⟨String.ofList (t.pmap Char.ofNatAux hvalid), ?_⟩
    rw [Text.ofString, String.toList_ofList, List.map_pmap]
    exact (List.pmap_eq_self.2 fun c hc => rfl).symm
  · rintro ⟨s, rfl⟩
    exact ⟨_, encode_ofString s⟩

end StepForge.Utf8
