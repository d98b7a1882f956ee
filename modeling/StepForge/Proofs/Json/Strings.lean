import Mathlib.Data.Nat.Init
import StepForge.Json.Reader

/-!
# `StepForge.Proofs.Json.Strings` — what a string of a JSON text spells

A string is spelled by what stands between its quotes. Most code points stand for themselves; an escape is
longer than the one code point it spells. So a spelling tells by its length alone whether it holds an
escape, and without one it is the string itself.

## Contents
- `Plain`, `string_plain` — texts that can stand between quotes as they are, and that they are read back.
- `Spells`, `string_spells` — spellings with escapes, and that whatever is read was spelled.
- `Spells.eq_of_notMem`, `Spells.length_lt` — what a spelling without and with an escape is.
- `plain_of_spelled` — a text that is read back from where it stands as it is, is plain.
-/

namespace StepForge.Json

/-! ## Plain texts -/

/-- A text that can stand between double quotes as it is: no quotes, no backslashes, no control characters. -/
def Plain (t : Text) : Prop := ∀ c ∈ t, c ≠ '"'.toNat ∧ c ≠ '\\'.toNat ∧ 0x20 ≤ c

instance (t : Text) : Decidable (Plain t) :=
  inferInstanceAs (Decidable (∀ c ∈ t, c ≠ '"'.toNat ∧ c ≠ '\\'.toNat ∧ 0x20 ≤ c))

namespace Reader

theorem push_eq_ok_iff {c : CodePoint} {r : Except Failure (Text × Text)} {s rest : Text} :
    push c r = .ok (s, rest) ↔ ∃ t, r = .ok (t, rest) ∧ s = c :: t := by
  unfold push
  cases r with
  | error f => simp [Except.map]
  | ok p =>
      obtain ⟨t, behind⟩ := p
      constructor
      · intro h
        cases h
        exact ⟨t, rfl, rfl⟩
      · rintro ⟨_, h, rfl⟩
        cases h
        rfl

/-- **A plain text is read back.** -/
theorem string_plain (opened : Nat) {t : Text} (h : Plain t) (rest : Text) :
    string opened 0 (t ++ '"'.toNat :: rest) = .ok (t, rest) := by
  induction t with
  | nil =>
      rw [List.nil_append, string, if_pos rfl]
  | cons c t ih =>
      obtain ⟨hquote, hback, hcontrol⟩ := h c (by simp)
      have hfree : ¬ c ≤ 0x1F := Nat.not_le.2 hcontrol
      rw [List.cons_append, string, if_neg hquote, if_neg hback, if_neg hfree,
        ih fun d hd => h d (List.mem_cons_of_mem c hd)]
      rfl

end Reader

/-! ## Spellings -/

/-- What can stand behind the backslash of an escape: a quote alone, or something without quotes; and no
control characters. -/
structure IsEscape (e : Text) : Prop where
  ne_nil : e ≠ []
  quote : e = ['"'.toNat] ∨ '"'.toNat ∉ e
  control_free : ∀ c ∈ e, 0x20 ≤ c

/-- What stands between quotes, and the text it spells. -/
inductive Spells : (raw t : Text) → Prop
  | nil : Spells [] []
  | plain {c : CodePoint} {raw t : Text} (hquote : c ≠ '"'.toNat) (hback : c ≠ '\\'.toNat) (hcontrol : 0x20 ≤ c)
      (h : Spells raw t) : Spells (c :: raw) (c :: t)
  | escape {e raw t : Text} {d : CodePoint} (he : IsEscape e) (h : Spells raw t) :
      Spells ('\\'.toNat :: (e ++ raw)) (d :: t)

namespace Spells

variable {raw t : Text}

theorem length_le (h : Spells raw t) : t.length ≤ raw.length := by
  induction h with
  | nil => exact Nat.le_refl _
  | plain hquote hback hcontrol h ih => simpa using ih
  | escape he h ih =>
      simp only [List.length_cons, List.length_append]
      omega

/-- Without a backslash, a text spells itself. -/
theorem eq_of_notMem (h : Spells raw t) (hback : '\\'.toNat ∉ raw) : raw = t ∧ Plain t := by
  induction h with
  | nil => exact ⟨rfl, List.forall_mem_nil _⟩
  | plain hquote hne hcontrol h ih =>
      obtain ⟨rfl, hplain⟩ := ih fun hmem => hback (List.mem_cons_of_mem _ hmem)
      exact ⟨rfl, List.forall_mem_cons.2 ⟨⟨hquote, hne, hcontrol⟩, hplain⟩⟩
  | escape he h ih => exact absurd (List.mem_cons_self ..) hback

/-- With a backslash, the spelling is longer. -/
theorem length_lt (h : Spells raw t) (hback : '\\'.toNat ∈ raw) : t.length < raw.length := by
  induction h with
  | nil => exact absurd hback List.not_mem_nil
  | plain hquote hne hcontrol h ih =>
      have hrest := ih ((List.mem_cons.1 hback).resolve_left (Ne.symm hne))
      simpa using hrest
  | escape he h ih =>
      have hlen := h.length_le
      have hpos := List.length_pos_iff.2 he.ne_nil
      simp only [List.length_cons, List.length_append]
      omega

theorem control_free (h : Spells raw t) : ∀ c ∈ raw, 0x20 ≤ c := by
  induction h with
  | nil => exact List.forall_mem_nil _
  | plain hquote hback hcontrol h ih => exact List.forall_mem_cons.2 ⟨hcontrol, ih⟩
  | escape he h ih =>
      exact List.forall_mem_cons.2 ⟨by decide, List.forall_mem_append.2 ⟨he.control_free, ih⟩⟩

/-- A quote between the quotes has a backslash in front of it. -/
theorem quote_escaped (h : Spells raw t) {k : Nat} (hk : raw[k]? = some '"'.toNat) :
    ∃ j, k = j + 1 ∧ raw[j]? = some '\\'.toNat := by
  induction h generalizing k with
  | nil => simp at hk
  | plain hquote hback hcontrol h ih =>
      cases k with
      | zero => exact absurd (by simpa using hk) hquote
      | succ k =>
          obtain ⟨j, rfl, hj⟩ := ih (by simpa using hk)
          exact ⟨j + 1, rfl, by simpa using hj⟩
  | @escape e raw t d he h ih =>
      cases k with
      | zero =>
          rw [List.getElem?_cons_zero] at hk
          exact absurd (Option.some.inj hk) (by decide)
      | succ k =>
          rw [List.getElem?_cons_succ] at hk
          rcases Nat.lt_or_ge k e.length with hlt | hge
          · rw [List.getElem?_append_left hlt] at hk
            rcases he.quote with rfl | hnone
            · have hzero : k = 0 := by simpa using hlt
              exact ⟨0, by rw [hzero], rfl⟩
            · exact absurd (List.mem_of_getElem? hk) hnone
          · rw [List.getElem?_append_right hge] at hk
            obtain ⟨j, hj, hback⟩ := ih hk
            refine ⟨e.length + j + 1, by omega, ?_⟩
            rw [List.getElem?_cons_succ, List.getElem?_append_right (by omega), Nat.add_sub_cancel_left, hback]

end Spells

/-! ## Whatever is read was spelled -/

namespace Reader

theorem hexDigit?_free {c : Nat} (h : (Text.hexDigit? c).isSome) : c ≠ '"'.toNat ∧ 0x20 ≤ c := by
  suffices hlow : 48 ≤ c from ⟨Nat.ne_of_gt (Nat.lt_of_lt_of_le (by decide) hlow), Nat.le_trans (by decide) hlow⟩
  unfold Text.hexDigit? at h
  simp only [Bool.and_eq_true, decide_eq_true_eq] at h
  split at h
  · rename_i hdigit
    exact hdigit.1
  · split at h
    · rename_i hsmall
      exact Nat.le_trans (by decide) hsmall.1
    · split at h
      · rename_i hlarge
        exact Nat.le_trans (by decide) hlarge.1
      · cases h

theorem fourDigits?_free {a b c d : CodePoint} {n : Nat} (h : fourDigits? a b c d = some n) :
    ∀ x ∈ [a, b, c, d], x ≠ '"'.toNat ∧ 0x20 ≤ x := by
  have hall : ∀ x ∈ [a, b, c, d], (Text.hexDigit? x).isSome := by
    unfold fourDigits? at h
    cases ha : Text.hexDigit? a <;> cases hb : Text.hexDigit? b <;> cases hc : Text.hexDigit? c <;>
      cases hd : Text.hexDigit? d <;> simp_all
  exact fun x hx => hexDigit?_free (hall x hx)

/-- The digits of an escape hold no quotes and no control characters. -/
theorem hexEscape_free {t : Text} {c n : Nat} (h : hexEscape t = .ok (c, n)) :
    ∀ x ∈ t.take n, x ≠ '"'.toNat ∧ 0x20 ≤ x := by
  unfold hexEscape at h
  split at h
  · rename_i a b c d e rest
    split at h
    · cases h
    · rename_i high hhigh
      have hfirst := fourDigits?_free hhigh
      split at h
      · rename_i hbehind _ _ _
        split at h
        · cases h
        · rename_i low hlow
          have hsecond := fourDigits?_free hlow
          split at h
          · -- Both halves of a pair were taken, with the beginning of the second escape between them.
            have hn : 10 = n := congrArg Prod.snd (Except.ok.inj h)
            have hbetween : ∀ x ∈ ("\\u" : Text), x ≠ '"'.toNat ∧ 0x20 ≤ x := by decide
            rw [← hn, ← hbehind]
            show ∀ x ∈ [a, b, _, d] ++ ("\\u" : Text) ++ [_, _, _, _], _
            exact List.forall_mem_append.2 ⟨List.forall_mem_append.2 ⟨hfirst, hbetween⟩, hsecond⟩
          · cases h
            exact hfirst
      · cases h
        exact hfirst
  · cases h

/-- The letters of escapes. -/
def escapeLetters : Text :=
  ['"'.toNat, '\\'.toNat, '/'.toNat, 'b'.toNat, 'f'.toNat, 'n'.toNat, 'r'.toNat, 't'.toNat]

theorem escapeLetter?_mem {e c : CodePoint} (h : escapeLetter? e = some c) : e ∈ escapeLetters := by
  refine Classical.byContradiction fun hmem => ?_
  simp only [escapeLetters, List.mem_cons, List.not_mem_nil, or_false, not_or] at hmem
  simp only [escapeLetter?, hmem, decide_false, Bool.or_self, if_false] at h
  cases h

/-- An escape is one. -/
theorem escape_isEscape {opened d n : Nat} {t : Text} (h : escape opened t = .ok (d, n)) : IsEscape (t.take n) := by
  cases t with
  | nil => cases h
  | cons e t =>
      rw [escape] at h
      split at h
      · rename_i hu
        cases hhex : hexEscape t with
        | error f =>
            rw [hhex] at h
            cases h
        | ok p =>
            obtain ⟨c, m⟩ := p
            rw [hhex] at h
            cases h
            have hfree : ∀ x ∈ e :: t.take m, x ≠ '"'.toNat ∧ 0x20 ≤ x :=
              List.forall_mem_cons.2 ⟨by rw [hu]; decide, hexEscape_free hhex⟩
            exact ⟨List.cons_ne_nil _ _, Or.inr fun hmem => (hfree _ hmem).1 rfl, fun x hx => (hfree x hx).2⟩
      · cases hletter : escapeLetter? e with
        | none =>
            rw [hletter] at h
            cases h
        | some c =>
            rw [hletter] at h
            cases h
            have hletters : ∀ x ∈ escapeLetters, 0x20 ≤ x := by decide
            refine ⟨List.cons_ne_nil _ _, ?_, List.forall_mem_singleton.2 (hletters e (escapeLetter?_mem hletter))⟩
            rw [List.take_succ_cons, List.take_zero, List.mem_singleton]
            by_cases he : e = '"'.toNat
            · exact Or.inl (by rw [he])
            · exact Or.inr (Ne.symm he)

/-- **Whatever is read was spelled**, up to the closing quote. -/
theorem string_spells {opened k : Nat} {t s rest : Text} (h : string opened k t = .ok (s, rest)) :
    ∃ raw, t.drop k = raw ++ '"'.toNat :: rest ∧ Spells raw s := by
  induction t generalizing k s with
  | nil =>
      rw [string] at h
      cases h
  | cons c t ih =>
      cases k with
      | succ k =>
          rw [string] at h
          exact ih h
      | zero =>
          rw [string] at h
          split at h
          · rename_i hquote
            cases h
            exact ⟨[], by rw [hquote]; rfl, .nil⟩
          · split at h
            · rename_i hback
              cases hescape : escape opened t with
              | error f =>
                  rw [hescape] at h
                  cases h
              | ok p =>
                  obtain ⟨d, n⟩ := p
                  rw [hescape] at h
                  obtain ⟨s, hs, rfl⟩ := push_eq_ok_iff.1 h
                  obtain ⟨raw, hraw, hspells⟩ := ih hs
                  refine ⟨'\\'.toNat :: (t.take n ++ raw), ?_, .escape (escape_isEscape hescape) hspells⟩
                  rw [List.drop_zero, hback, List.cons_append, List.append_assoc, ← hraw, List.take_append_drop]
            · split at h
              · cases h
              · rename_i hquote hback hcontrol
                obtain ⟨s, hs, rfl⟩ := push_eq_ok_iff.1 h
                obtain ⟨raw, hraw, hspells⟩ := ih hs
                refine ⟨c :: raw, ?_, .plain hquote hback (Nat.not_le.1 hcontrol) hspells⟩
                rw [List.drop_zero] at hraw ⊢
                rw [hraw]
                rfl

end Reader

/-! ## Texts that stand as they are -/

theorem getElem?_of_eq_append {whole front mid behind : Text} (h : whole = front ++ mid ++ behind) {i k : Nat}
    (hi : i = front.length + k) (hk : k < mid.length) : whole[i]? = mid[k]? := by
  rw [h, hi, List.append_assoc, List.getElem?_append_right (Nat.le_add_right _ _), Nat.add_sub_cancel_left,
    List.getElem?_append_left hk]

/-- What a text holds that the texts around a part do not hold, the part holds. -/
theorem place_of_notMem {whole front mid behind : Text} (h : whole = front ++ mid ++ behind) {c : CodePoint}
    {i : Nat} (hi : whole[i]? = some c) (hfront : c ∉ front) (hbehind : c ∉ behind) :
    front.length ≤ i ∧ i < front.length + mid.length := by
  rw [h, List.append_assoc] at hi
  constructor
  · refine Nat.le_of_not_lt fun hlt => hfront ?_
    rw [List.getElem?_append_left hlt] at hi
    exact List.mem_of_getElem? hi
  · refine Nat.lt_of_not_le fun hge => hbehind ?_
    rw [List.getElem?_append_right (by omega), List.getElem?_append_right (by omega)] at hi
    exact List.mem_of_getElem? hi

section

variable {whole raw t front behind : Text} (hspells : Spells raw t)
  (hwhole : whole = front ++ ['"'.toNat] ++ raw ++ (['"'.toNat] ++ behind))

include hwhole in
theorem getElem?_spelling {i j : Nat} (hi : i = front.length + 1 + j) (hj : j < raw.length) :
    whole[i]? = raw[j]? :=
  getElem?_of_eq_append hwhole (by simpa using hi) hj

include hwhole in
theorem getElem?_closing : whole[front.length + 1 + raw.length]? = some '"'.toNat := by
  have hquote : whole = front ++ ['"'.toNat] ++ raw ++ ['"'.toNat] ++ behind := by simpa using hwhole
  exact getElem?_of_eq_append hquote (k := 0) (by simp; omega) Nat.zero_lt_one

include hspells hwhole in
/-- A spelling that ends behind a quote with a blank in front of it also begins behind it. -/
theorem begins_behind_quote {pre rest : Text} (hpre : whole = pre ++ [32, '"'.toNat] ++ rest)
    (hends : pre.length + 1 < front.length + 1 + raw.length) : pre.length + 2 ≤ front.length + 1 := by
  refine Nat.le_of_not_lt fun hlt => ?_
  obtain ⟨m, hm⟩ : ∃ m, pre.length + 1 = front.length + 1 + m := ⟨pre.length - front.length, by omega⟩
  have hquote : raw[m]? = some '"'.toNat :=
    (getElem?_spelling hwhole hm (by omega)).symm.trans (getElem?_of_eq_append hpre (k := 1) rfl (by decide))
  obtain ⟨j, rfl, hback⟩ := hspells.quote_escaped hquote
  -- The blank stands where the backslash of this quote must be.
  have hblank : raw[j]? = some 32 :=
    (getElem?_spelling hwhole (i := pre.length) (by omega) (by omega)).symm.trans
      (getElem?_of_eq_append hpre (k := 0) rfl (by decide))
  rw [hback] at hblank
  exact absurd (Option.some.inj hblank) (by decide)

include hspells hwhole in
/-- A spelling that begins in front of a quote with a comma and a line end behind it also ends there. -/
theorem ends_at_quote {mid rest : Text} (hmid : whole = mid ++ ['"'.toNat, ','.toNat, 10] ++ rest)
    (hbegins : front.length + 1 ≤ mid.length) : front.length + 1 + raw.length ≤ mid.length := by
  have hclosing := getElem?_closing hwhole
  have hcomma : whole[mid.length + 1]? = some ','.toNat := getElem?_of_eq_append hmid (k := 1) rfl (by decide)
  have hline : whole[mid.length + 2]? = some 10 := getElem?_of_eq_append hmid (k := 2) rfl (by decide)
  -- The closing quote is neither the comma nor the line end, and the line end is no part of a spelling.
  have hnotComma : mid.length + 1 ≠ front.length + 1 + raw.length := by
    intro heq
    rw [heq, hclosing] at hcomma
    exact absurd (Option.some.inj hcomma) (by decide)
  have hnotLine : mid.length + 2 ≠ front.length + 1 + raw.length := by
    intro heq
    rw [heq, hclosing] at hline
    exact absurd (Option.some.inj hline) (by decide)
  have hnear : front.length + 1 + raw.length ≤ mid.length + 2 := by
    refine Nat.le_of_not_lt fun hlt => ?_
    obtain ⟨m, hm⟩ : ∃ m, mid.length + 2 = front.length + 1 + m := ⟨mid.length + 2 - (front.length + 1), by omega⟩
    have hcontrol := (getElem?_spelling hwhole hm (by omega)).symm.trans hline
    exact absurd (hspells.control_free _ (List.mem_of_getElem? hcontrol)) (by decide)
  omega

include hspells hwhole in
/-- **A text that is read back from where it stands as it is, is plain**: between quotes, with a blank in front
and a comma and a line end behind, and no backslash outside. Wherever the spelling that is read stands, it
cannot hold an escape, since with one it would be longer than the text. -/
theorem plain_of_spelled {pre suf : Text} (hpre : '\\'.toNat ∉ pre) (hsuf : '\\'.toNat ∉ suf)
    (htext : whole = pre ++ [32, '"'.toNat] ++ t ++ (['"'.toNat, ','.toNat, 10] ++ suf)) : Plain t := by
  by_cases hback : '\\'.toNat ∈ raw
  · obtain ⟨k, hk⟩ := List.mem_iff_getElem?.1 hback
    have hklt : k < raw.length := (List.getElem?_eq_some_iff.1 hk).1
    -- The backslash stands in the text, so the spelling neither ends in front of it nor begins behind it.
    obtain ⟨hlow, hhigh⟩ := place_of_notMem htext ((getElem?_spelling hwhole rfl hklt).trans hk)
      (by simpa using hpre) (by simpa using hsuf)
    simp only [List.length_append, List.length_cons, List.length_nil] at hlow hhigh
    have hfront : whole = pre ++ [32, '"'.toNat] ++ (t ++ (['"'.toNat, ','.toNat, 10] ++ suf)) := by
      simpa using htext
    have hbehind : whole = pre ++ [32, '"'.toNat] ++ t ++ ['"'.toNat, ','.toNat, 10] ++ suf := by
      simpa using htext
    have hbegins := begins_behind_quote hspells hwhole hfront (by omega)
    have hends := ends_at_quote hspells hwhole hbehind (by simp; omega)
    have hlong := hspells.length_lt hback
    simp only [List.length_append, List.length_cons, List.length_nil] at hends
    omega
  · exact (hspells.eq_of_notMem hback).2

end

end StepForge.Json
