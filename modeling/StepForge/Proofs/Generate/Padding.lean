import StepForge.Generate.Field
import StepForge.Proofs.Results
import StepForge.Proofs.Settings.Validity
import StepForge.Proofs.Text.Numeral

/-!
# `StepForge.Proofs.Generate.Padding` — how long padded help text is

Help text that is too short is followed by a note that names the least length. The note is as long as its words and
the digits of the least length make it, whatever the least length itself is. So the padded text has the least length
only as far as the note reaches, and a second padding changes what does not.

## Contents
- `exceeds_iff`, `exceedsLength_eq` — what a least length exceeds.
- `noteText`, `length_noteText` — the note, and its length.
- `shownHelp`, `paddedHelp_eq`, `le_length_shownHelp_iff` — the padded text, and when it is long enough.
- `le_note_iff` — the least lengths that the note itself reaches.
- `padded_help_length` — all of it, for every help text and every least length of the settings.
-/

namespace StepForge

/-- A number without a fraction exceeds the lengths below it. -/
theorem Quantity.exceeds_iff {v : Value} {n : Int} (h : v.StandsFor n) :
    ∃ q, Quantity.ofValue? v = some q ∧ ∀ length, q.exceeds length = true ↔ (length : Int) < n := by
  cases h with
  | int => exact ⟨.int n, rfl, fun length => decide_eq_true_iff⟩
  | @float x _ hfinite hn =>
      refine ⟨.float x, rfl, fun length => ?_⟩
      have hexp : x.exponent.val ≠ 2047 := by simpa [Binary64.isFinite] using hfinite
      have hnan : x.isNaN = false := by simp [Binary64.isNaN, hexp]
      have hlength : (length : ℚ) < x.number ↔ (length : Int) < n := by
        rw [hn]
        exact_mod_cast Iff.rfl
      rw [← hlength]
      unfold exceeds
      dsimp only
      rw [hnan, hfinite, Bool.false_or, if_pos rfl]
      cases hneg : x.negative with
      | true =>
          have hamount := x.amount_nonneg
          have hnumber : x.number = -x.amount := by rw [Binary64.number, hneg, if_pos rfl]
          refine iff_of_false Bool.false_ne_true (not_lt.2 ?_)
          linarith [Nat.cast_nonneg (α := ℚ) length]
      | false =>
          -- The power of two on the other side is a denominator.
          have hpos : (0 : ℚ) < ((2 ^ (-x.scale).toNat : ℕ) : ℚ) := by positivity
          rw [if_neg Bool.false_ne_true, decide_eq_true_iff, Binary64.number, hneg, if_neg Bool.false_ne_true,
            x.amount_eq_div, lt_div_iff₀ hpos]
          exact_mod_cast Iff.rfl

namespace Generate

variable {least : Value} {n : Int}

theorem exceedsLength_eq (h : least.StandsFor n) (length : Nat) :
    exceedsLength least length = .ok (decide ((length : Int) < n)) := by
  obtain ⟨q, hq, hexceeds⟩ := Quantity.exceeds_iff h
  unfold exceedsLength
  rw [hq]
  exact congrArg Except.ok (Bool.eq_iff_iff.2 ((hexceeds length).trans decide_eq_true_iff.symm))

/-! ## The note -/

/-- The note that names a least length. -/
def noteText (least : Value) : Text := ("(help text must be at least " : Text) ++ least.display ++ " characters)"

theorem length_noteText (least : Value) : (noteText least).length = least.display.length + 40 := by
  have hfront : ("(help text must be at least " : Text).length = 28 := by decide
  have hback : (" characters)" : Text).length = 12 := by decide
  unfold noteText
  rw [List.length_append, List.length_append, hfront, hback]
  omega

theorem lengthNote_eq (hshort : least.isLong = false) : lengthNote least = .ok (noteText least) := by
  unfold lengthNote Value.written
  rw [hshort]
  rfl

theorem lengthNote_of_long (hlong : least.isLong = true) : lengthNote least = .error .long := by
  unfold lengthNote Value.written
  rw [hlong]
  rfl

/-- **The note reaches an integer that it names** up to forty-two, which has two digits and names itself with as
many characters. -/
theorem le_note_iff (n : Int) : n ≤ (noteText (.int n)).length ↔ n ≤ 42 := by
  rw [length_noteText]
  show n ≤ ((Text.ofInt n).length + 40 : ℕ) ↔ n ≤ 42
  cases n with
  | negSucc k => exact iff_of_true (by omega) (by omega)
  | ofNat k =>
      have hone : (Text.ofNat k).length ≤ 1 ↔ k < 10 := Text.length_ofNat_le_iff (by decide)
      have htwo : (Text.ofNat k).length ≤ 2 ↔ k < 100 := Text.length_ofNat_le_iff (by decide)
      -- A longer numeral is a number above ten times its length.
      have hmore : (Text.ofNat k).length ≤ k / 10 + 2 := by
        refine (Text.length_ofNat_le_iff (by omega)).2 ?_
        have hpow : k / 10 + 1 < 10 ^ (k / 10 + 1) := Nat.lt_pow_self (by decide)
        rw [Nat.pow_succ]
        omega
      have hlength : (Text.ofInt (.ofNat k)).length = (Text.ofNat k).length := rfl
      rw [hlength, Int.ofNat_eq_natCast]
      omega

/-! ## Padded text -/

/-- Help text as it is shown: as it is if it is long enough, followed by the note if it is not, and the note alone if
there is no text. -/
def shownHelp (least : Value) (n : Int) : Value → Text
  | .str t => if n ≤ t.length then t else t ++ ' '.toNat :: noteText least
  | _ => noteText least

theorem shownHelp_of_le {t : Text} (h : n ≤ t.length) : shownHelp least n (.str t) = t := if_pos h

theorem shownHelp_of_lt {t : Text} (h : ↑t.length < n) :
    shownHelp least n (.str t) = t ++ ' '.toNat :: noteText least := if_neg (not_le.2 h)

/-- How much stands in front of the note: a text and a blank. -/
def lengthBefore : Value → Nat
  | .str t => t.length + 1
  | _ => 0

theorem paddedHelp_eq (h : least.StandsFor n) (hshort : least.isLong = false) (help : Value) :
    paddedHelp least help = .ok (shownHelp least n help) := by
  unfold paddedHelp
  rw [lengthNote_eq hshort]
  cases help with
  | str t =>
      show (exceedsLength least t.length >>= fun short => _) = _
      rw [exceedsLength_eq h]
      rcases le_or_gt n t.length with hle | hlt
      · rw [shownHelp_of_le hle, decide_eq_false (not_lt.2 hle)]
        rfl
      · rw [shownHelp_of_lt hlt, decide_eq_true hlt]
        rfl
  | _ => rfl

theorem paddedHelp_of_long (hlong : least.isLong = true) (help : Value) : paddedHelp least help = .error .long := by
  unfold paddedHelp
  rw [lengthNote_of_long hlong]
  rfl

/-- **Padded text is long enough** exactly if the text, a blank and the note are. -/
theorem le_length_shownHelp_iff (help : Value) :
    n ≤ (shownHelp least n help).length ↔ n ≤ lengthBefore help + (noteText least).length := by
  cases help with
  | str t =>
      have hbefore : lengthBefore (.str t) = t.length + 1 := rfl
      rcases le_or_gt n t.length with hle | hlt
      · rw [shownHelp_of_le hle]
        exact iff_of_true hle (by omega)
      · rw [shownHelp_of_lt hlt, List.length_append, List.length_cons]
        omega
  | _ => simp [shownHelp, lengthBefore]

/-- What is long enough is padded no further, and what is not is. -/
theorem shownHelp_str_iff (t : Text) : shownHelp least n (.str t) = t ↔ n ≤ t.length := by
  rcases le_or_gt n t.length with hle | hlt
  · exact iff_of_true (shownHelp_of_le hle) hle
  · refine iff_of_false ?_ (not_le.2 hlt)
    rw [shownHelp_of_lt hlt]
    simp

/-- The help text of a field stands behind its label, padded. -/
theorem helpText_of_fieldProperties {key : Value} {f : Field} {properties : List Text} {t : Text}
    (h : fieldProperties least key f = .ok properties) (ht : paddedHelp least f.helpText = .ok t) :
    properties[2]? = some (property "helpText" (Value.scriptQuoted (.str t))) := by
  unfold fieldProperties at h
  obtain ⟨quotedKey, -, h⟩ := bind_eq_ok_iff.1 h
  obtain ⟨quotedLabel, -, h⟩ := bind_eq_ok_iff.1 h
  obtain ⟨help, hhelp, h⟩ := bind_eq_ok_iff.1 h
  cases hhelp.symm.trans ht
  dsimp only at h
  split at h
  · obtain ⟨placeholder, -, h⟩ := bind_eq_ok_iff.1 h
    cases h
    rfl
  · cases h
    rfl

/-- **How long padded help text is**, for every help text and every least length that stands for an integer. If that
integer is too long to be named there is no padded text. Otherwise there is one, which is long enough exactly if the
text with a blank and the note is; it stands in the field; and padding it again changes nothing exactly if it is long
enough. Every help text is padded to the least length exactly if the note alone reaches it, as it does for integers up
to forty-two. -/
theorem padded_help_length (least : Value) (n : Int) (h : least.StandsFor n) :
    (least.isLong = true → ∀ help, paddedHelp least help = .error .long) ∧
      (least.isLong = false →
        (∀ help, ∃ t, paddedHelp least help = .ok t ∧
          (n ≤ t.length ↔ n ≤ lengthBefore help + (noteText least).length) ∧
          (paddedHelp least (.str t) = paddedHelp least help ↔ n ≤ t.length) ∧
          ∀ (key : Value) (f : Field) (properties : List Text), f.helpText = help →
            fieldProperties least key f = .ok properties →
            properties[2]? = some (property "helpText" (Value.scriptQuoted (.str t)))) ∧
        ((∀ help t, paddedHelp least help = .ok t → n ≤ t.length) ↔ n ≤ (noteText least).length)) ∧
      (least = .int n → (n ≤ (noteText least).length ↔ n ≤ 42)) := by
  refine ⟨paddedHelp_of_long, fun hshort => ⟨fun help => ?_, ?_⟩, ?_⟩
  · have hpadded := paddedHelp_eq h hshort
    refine ⟨_, hpadded help, le_length_shownHelp_iff help, ?_, ?_⟩
    · rw [hpadded, hpadded, Except.ok.injEq]
      exact shownHelp_str_iff _
    · intro key f properties hf hproperties
      subst hf
      exact helpText_of_fieldProperties hproperties (hpadded _)
  · constructor
    · intro hall
      have hnull := hall .null _ (paddedHelp_eq h hshort .null)
      exact hnull
    · intro hnote help t ht
      rw [paddedHelp_eq h hshort] at ht
      cases ht
      exact (le_length_shownHelp_iff help).2 (hnote.trans (by omega))
  · rintro rfl
    exact le_note_iff n

theorem null_padded_below_fifty :
    (Value.int 50).StandsFor 50 ∧ ∃ t, paddedHelp (.int 50) .null = .ok t ∧ ¬ (50 : Int) ≤ t.length := by
  have hfifty : (Value.int 50).StandsFor 50 := .int 50
  obtain ⟨-, hshort, hnote⟩ := padded_help_length (.int 50) 50 hfifty
  obtain ⟨t, ht, hlength, -⟩ := (hshort rfl).1 .null
  refine ⟨hfifty, t, ht, fun hle => ?_⟩
  -- Without a text there is only the note, which reaches forty-two.
  have hreach : (50 : Int) ≤ (0 : Nat) + (noteText (.int 50)).length := hlength.1 hle
  have habsurd : (50 : Int) ≤ 42 := (hnote rfl).1 (by omega)
  omega

end Generate
end StepForge
