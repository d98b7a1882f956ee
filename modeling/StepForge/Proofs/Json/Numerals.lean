import Mathlib.Data.List.TakeWhile
import StepForge.Json.Reader
import StepForge.Proofs.Text.Split

/-!
# `StepForge.Proofs.Json.Numerals` — integers with too many digits

The grammar of JSON allows an integer of any length, and the reader takes no more than a number of digits. Digits
that go on as a fraction or with an exponent are no integer, and have no limit.

## Contents
- `BeginsFraction`, `BeginsExponent`, `Continues` — how a text can go on behind an integer.
- `BeginsLong`, `IsLong` — integers that are too long.
- `number_long_iff` — the numbers that are refused for it.
- `IsLong.cons` — what else such an integer is not.
-/

namespace StepForge.Json.Reader

variable {n : Nat}

/-! ## One number -/

/-- Behind the digits of an integer a fraction begins. -/
def BeginsFraction (t : Text) : Prop := ∃ d rest, t = '.'.toNat :: d :: rest ∧ isDigit d = true

/-- Behind the digits of an integer an exponent begins, with or without a sign. -/
def BeginsExponent (t : Text) : Prop :=
  ∃ e sign d rest, t = e :: (sign ++ d :: rest) ∧ (e = 'e'.toNat ∨ e = 'E'.toNat) ∧
    (sign = [] ∨ sign = ['-'.toNat] ∨ sign = ['+'.toNat]) ∧ isDigit d = true

/-- An integer in front of a text goes on: with a digit, or as a number with a fraction or an exponent. -/
def Continues (t : Text) : Prop := (∃ d rest, t = d :: rest ∧ isDigit d = true) ∨ BeginsFraction t ∨ BeginsExponent t

/-- A text begins with `n` digits that are an integer without a sign, and they are too many. -/
def BeginsLong (n : Nat) (t : Text) : Prop :=
  ∃ ds behind, t = ds ++ behind ∧ (∀ d ∈ ds, isDigit d = true) ∧ ds.head? ≠ some '0'.toNat ∧ ds.length = n ∧
    Text.numeralLimit < n ∧ ¬ Continues behind

/-- A text begins with an integer of `n` digits, with or without a sign, and they are too many. -/
def IsLong (n : Nat) (t : Text) : Prop := ∃ rest, (t = rest ∨ t = '-'.toNat :: rest) ∧ BeginsLong n rest

theorem digits_eq_nil_iff {t : Text} : (digits t).1 = [] ↔ ¬ ∃ d rest, t = d :: rest ∧ isDigit d = true := by
  cases t with
  | nil => simp [digits]
  | cons d rest =>
      by_cases hd : isDigit d = true
      · simp [digits, hd]
      · simp [digits, hd]

/-- There are no places exactly if no fraction begins, and then nothing is taken. -/
theorem fraction_none {t : Text} (h : ¬ BeginsFraction t) : fraction t = ([], t) := by
  unfold fraction
  split
  · next d rest =>
      split
      · next hd => exact absurd ⟨d, rest, rfl, hd⟩ h
      · rfl
  · rfl

theorem fraction_some {t : Text} (h : BeginsFraction t) : (fraction t).1 ≠ [] := by
  obtain ⟨d, rest, rfl, hd⟩ := h
  show (if isDigit d then digits (d :: rest) else ([], _)).1 ≠ []
  rw [if_pos hd]
  exact fun hnil => digits_eq_nil_iff.1 hnil ⟨d, rest, rfl, hd⟩

/-- A text without the sign in front. -/
def withoutSign : Text → Text
  | 0x2D :: rest => rest
  | 0x2B :: rest => rest
  | rest => rest

/-- A sign is passed over, and then a digit stands there. -/
theorem withoutSign_iff {t : Text} :
    (∃ d more, withoutSign t = d :: more ∧ isDigit d = true) ↔
      ∃ sign d more, t = sign ++ d :: more ∧ (sign = [] ∨ sign = ['-'.toNat] ∨ sign = ['+'.toNat]) ∧
        isDigit d = true := by
  constructor
  · rintro ⟨d, more, hsign, hd⟩
    unfold withoutSign at hsign
    split at hsign
    · exact ⟨['-'.toNat], d, more, by rw [hsign]; rfl, Or.inr (Or.inl rfl), hd⟩
    · exact ⟨['+'.toNat], d, more, by rw [hsign]; rfl, Or.inr (Or.inr rfl), hd⟩
    · exact ⟨[], d, more, hsign, Or.inl rfl, hd⟩
  · rintro ⟨sign, d, more, rfl, hsign, hd⟩
    refine ⟨d, more, ?_, hd⟩
    rcases hsign with rfl | rfl | rfl
    · -- A digit is no sign.
      unfold withoutSign
      split
      · next heq =>
          cases heq
          cases hd
      · next heq =>
          cases heq
          cases hd
      · rfl
    · rfl
    · rfl

theorem withoutSign_eq (t : Text) :
    withoutSign t = (match t with
      | 0x2D :: rest => (true, rest)
      | 0x2B :: rest => (false, rest)
      | rest => (false, rest)).2 := by
  unfold withoutSign
  split <;> rfl

theorem exponent_cons_none_iff {e : CodePoint} {rest : Text} (he : e = 'e'.toNat ∨ e = 'E'.toNat) :
    (exponent (e :: rest)).1 = none ↔ (digits (withoutSign rest)).1 = [] := by
  have hmark : (decide (e = 'e'.toNat) || decide (e = 'E'.toNat)) = true := by simpa using he
  unfold exponent
  dsimp only
  rw [if_pos hmark, withoutSign_eq]
  split
  · next hdigits => exact iff_of_true rfl (congrArg Prod.fst hdigits)
  · next ds behind hne hdigits =>
      refine iff_of_false (by simp) fun hnil => hne ?_
      exact (congrArg Prod.fst hdigits).symm.trans hnil

/-- An exponent is read exactly if one begins. -/
theorem exponent_none_iff {t : Text} : (exponent t).1 = none ↔ ¬ BeginsExponent t := by
  cases t with
  | nil => simp [exponent, BeginsExponent]
  | cons e rest =>
      have hbegins : BeginsExponent (e :: rest) ↔
          (e = 'e'.toNat ∨ e = 'E'.toNat) ∧ ∃ d more, withoutSign rest = d :: more ∧ isDigit d = true := by
        rw [withoutSign_iff]
        constructor
        · rintro ⟨e, sign, d, more, heq, hmark, hsign, hd⟩
          cases heq
          exact ⟨hmark, sign, d, more, rfl, hsign, hd⟩
        · rintro ⟨hmark, sign, d, more, rfl, hsign, hd⟩
          exact ⟨e, sign, d, more, rfl, hmark, hsign, hd⟩
      rw [hbegins, not_and, ← digits_eq_nil_iff]
      by_cases hmark : e = 'e'.toNat ∨ e = 'E'.toNat
      · rw [exponent_cons_none_iff hmark]
        exact ⟨fun h _ => h, fun h => h hmark⟩
      · refine iff_of_true ?_ fun h => absurd h hmark
        unfold exponent
        exact congrArg Prod.fst (if_neg (by simpa using hmark))

/-- Digits that are read as a number are too many exactly if they are an integer and more than the limit. -/
theorem numberFrom_long_iff {negative : Bool} {whole : List Nat} {t : Text} :
    numberFrom negative whole t = .error (.longNumeral n) ↔
      ¬ BeginsFraction t ∧ ¬ BeginsExponent t ∧ Text.numeralLimit < whole.length ∧ whole.length = n := by
  unfold numberFrom
  by_cases hfraction : BeginsFraction t
  · have hplaces : (fraction t).1.isEmpty = false := by simpa using fraction_some hfraction
    simp [hplaces, hfraction]
  · simp only [fraction_none hfraction, List.isEmpty_nil, Bool.true_and, hfraction, not_false_iff, true_and]
    by_cases hexponent : BeginsExponent t
    · have hpower : (exponent t).1.isNone = false := by
        rw [Option.isNone_eq_false_iff, Option.isSome_iff_ne_none]
        exact fun hnone => exponent_none_iff.1 hnone hexponent
      simp [hpower, hexponent]
    · rw [exponent_none_iff.2 hexponent, Option.isNone_none, if_pos rfl]
      by_cases hlong : Text.numeralLimit < whole.length
      · simp [hlong, hexponent]
      · simp [hlong]

theorem BeginsLong.cons {t : Text} (h : BeginsLong n t) :
    ∃ c rest, t = c :: rest ∧ isDigit c = true ∧ c ≠ '0'.toNat := by
  obtain ⟨ds, behind, rfl, hdigits, hhead, rfl, hlimit, -⟩ := h
  cases ds with
  | nil => cases hlimit
  | cons c ds => exact ⟨c, ds ++ behind, rfl, hdigits c (List.mem_cons_self ..), by simpa using hhead⟩

theorem digits_append {ds behind : Text} (hdigits : ∀ d ∈ ds, isDigit d = true)
    (hends : ¬ ∃ d rest, behind = d :: rest ∧ isDigit d = true) :
    digits (ds ++ behind) = (ds.map (· - 48), behind) := by
  have hbehind : behind.takeWhile isDigit = [] ∧ behind.dropWhile isDigit = behind := by
    cases behind with
    | nil => exact ⟨rfl, rfl⟩
    | cons d rest =>
        have hd : ¬ isDigit d = true := fun hd => hends ⟨d, rest, rfl, hd⟩
        exact ⟨List.takeWhile_cons_of_neg hd, List.dropWhile_cons_of_neg hd⟩
  rw [digits, List.takeWhile_append_of_pos hdigits, List.dropWhile_append_of_pos hdigits, hbehind.1, hbehind.2,
    List.append_nil]

/-- Too many digits are split from what stands behind them. -/
theorem beginsLong_iff (negative : Bool) {t : Text} :
    BeginsLong n t ↔
      t.head? ≠ some '0'.toNat ∧ numberFrom negative (digits t).1 (digits t).2 = .error (.longNumeral n) := by
  rw [numberFrom_long_iff]
  constructor
  · rintro ⟨ds, behind, rfl, hdigits, hhead, hlen, hlimit, hends⟩
    unfold Continues at hends
    rw [not_or, not_or] at hends
    have hhead' : (ds ++ behind).head? ≠ some '0'.toNat := by
      cases ds with
      | nil =>
          subst hlen
          cases hlimit
      | cons d ds => exact hhead
    rw [digits_append hdigits hends.1, List.length_map]
    exact ⟨hhead', hends.2.1, hends.2.2, hlen ▸ hlimit, hlen⟩
  · rintro ⟨hhead, hfraction, hexponent, hlimit, hlen⟩
    have hlength : (t.takeWhile isDigit).length = n := by
      rw [← hlen, digits, List.length_map]
    refine ⟨t.takeWhile isDigit, t.dropWhile isDigit, (List.takeWhile_append_dropWhile).symm,
      fun d hd => List.mem_takeWhile_imp hd, ?_, hlength, hlen ▸ hlimit, ?_⟩
    · cases t with
      | nil => simp
      | cons d rest =>
          rw [List.takeWhile_cons]
          split
          · exact hhead
          · simp
    · rintro (⟨d, rest, hdrop, hd⟩ | hbegins | hbegins)
      · have hstop := List.head?_dropWhile_not isDigit t
        rw [hdrop] at hstop
        simp [hd] at hstop
      · exact hfraction hbegins
      · exact hexponent hbegins

/-- The number behind a sign, where `left` was left in front of it. -/
def behindSign (left : Nat) (negative : Bool) (t : Text) : Except Failure (Value × Text) :=
  match t with
  | [] => .error (.at .value left)
  | c :: behind =>
      if c = '0'.toNat then numberFrom negative [0] behind
      else match digits t with
        | ([], _) => .error (.at .value left)
        | (whole, behind) => numberFrom negative whole behind

theorem number_minus (t : Text) : number ('-'.toNat :: t) = behindSign (t.length + 1) true t := rfl

theorem number_of_ne {t : Text} (h : ∀ rest, t ≠ '-'.toNat :: rest) : number t = behindSign t.length false t := by
  unfold number
  split
  rename_i negative rest hsign
  split at hsign
  · exact absurd rfl (h _)
  · cases hsign
    rfl

theorem behindSign_long_iff {left : Nat} {negative : Bool} {t : Text} :
    behindSign left negative t = .error (.longNumeral n) ↔ BeginsLong n t := by
  rw [beginsLong_iff negative]
  cases t with
  | nil => simp [behindSign, digits, numberFrom_long_iff]
  | cons c behind =>
      unfold behindSign
      dsimp only
      by_cases hzero : c = '0'.toNat
      · -- A zero stands alone, and one digit is not too many.
        rw [if_pos hzero, numberFrom_long_iff]
        refine iff_of_false ?_ fun h => h.1 (by rw [hzero]; rfl)
        rintro ⟨-, -, hlimit, -⟩
        exact absurd hlimit (by decide)
      · rw [if_neg hzero]
        have hhead : (c :: behind).head? ≠ some '0'.toNat := by simpa using hzero
        split
        · next hdigits => simp [hdigits, numberFrom_long_iff]
        · next whole left hne hdigits =>
            rw [hdigits]
            exact (and_iff_right hhead).symm

/-- **A number has too many digits** exactly if it is an integer of more than the limit. -/
theorem number_long_iff {t : Text} : number t = .error (.longNumeral n) ↔ IsLong n t := by
  by_cases hminus : ∃ rest, t = '-'.toNat :: rest
  · obtain ⟨rest, rfl⟩ := hminus
    rw [number_minus, behindSign_long_iff]
    constructor
    · intro h
      exact ⟨rest, Or.inr rfl, h⟩
    · rintro ⟨u, heq | heq, h⟩
      · -- A sign is no digit.
        obtain ⟨c, behind, rfl, hdigit, -⟩ := h.cons
        cases heq
        cases hdigit
      · cases heq
        exact h
  · rw [number_of_ne fun rest h => hminus ⟨rest, h⟩, behindSign_long_iff]
    constructor
    · intro h
      exact ⟨t, Or.inl rfl, h⟩
    · rintro ⟨u, rfl | rfl, h⟩
      · exact h
      · exact absurd ⟨u, rfl⟩ hminus

/-! ## Words -/

theorem withoutSign_append {w : Text} (h : w ≠ []) (rest : Text) :
    withoutSign (w ++ rest) = withoutSign w ++ rest := by
  cases w with
  | nil => exact absurd rfl h
  | cons c w =>
      rw [withoutSign_eq, withoutSign_eq, List.cons_append]
      split
      · next heq =>
          cases heq
          rfl
      · next heq =>
          cases heq
          rfl
      · next hminus hplus =>
          split
          · next heq =>
              cases heq
              exact (hminus _ rfl).elim
          · next heq =>
              cases heq
              exact (hplus _ rfl).elim
          · rfl

theorem keywords_head : ∀ e ∈ keywords, (withoutSign e.1).head?.any (fun c => !isDigit c) = true := by decide

/-- Where a digit stands, with or without a sign, no word does. -/
theorem keyword?_of_digit {t : Text} {d : CodePoint} {more : Text} (ht : withoutSign t = d :: more)
    (hd : isDigit d = true) : keyword? t = none := by
  cases hword : keyword? t with
  | none => rfl
  | some found =>
      obtain ⟨e, hmem, hfound⟩ := List.exists_of_findSome?_eq_some hword
      obtain ⟨rest, hstart, -⟩ := Option.map_eq_some_iff.1 hfound
      have hhead := keywords_head e hmem
      have hne : e.1 ≠ [] := by
        intro hnil
        rw [hnil] at hhead
        cases hhead
      rw [Text.dropStart?_eq_some_iff.1 hstart, withoutSign_append hne] at ht
      cases hsign : withoutSign e.1 with
      | nil =>
          rw [hsign] at hhead
          cases hhead
      | cons c w =>
          rw [hsign] at hhead ht
          cases ht
          simp [hd] at hhead

/-- What begins an integer begins no word, no string and no collection. -/
theorem IsLong.cons {t : Text} (h : IsLong n t) :
    ∃ c rest, t = c :: rest ∧ c ≠ '"'.toNat ∧ c ≠ '\x7b'.toNat ∧ c ≠ '['.toNat ∧ keyword? t = none := by
  obtain ⟨u, ht, hbegins⟩ := h
  obtain ⟨d, more, rfl, hd, -⟩ := hbegins.cons
  rcases ht with rfl | rfl
  · obtain ⟨e, rest, hsign, he⟩ := withoutSign_iff.2 ⟨[], d, more, rfl, Or.inl rfl, hd⟩
    have hword : keyword? (d :: more) = none := keyword?_of_digit hsign he
    refine ⟨d, more, rfl, ?_, ?_, ?_, hword⟩
    all_goals
      rintro rfl
      cases hd
  · exact ⟨'-'.toNat, d :: more, rfl, by decide, by decide, by decide, keyword?_of_digit rfl hd⟩

end StepForge.Json.Reader
