import StepForge.Proofs.Number.Script
import StepForge.Proofs.Text.Split
import StepForge.Value.Fault

/-!
# `StepForge.Proofs.Value.ScriptText` — values as a script converts them

A script converts lists item by item with commas between, null items to nothing, and a mapping to a fixed text. The
text of a value in a script is meant to be that conversion. It is where every number with a point that comes into it
has the conversion as its text; mappings hide what they hold. The texts of items may hold commas themselves, so that
a list is compared with its conversion from the front: what stands behind an item begins with a comma, and no number
holds one.

## Contents
- `Converts` — the conversion of a value.
- `IsParsed` — values without dates, bytes and knots, whose numbers are exact or finite.
- `exists_converts` — every such value has one conversion.
- `shownFloats`, `append_eq_append_iff` — the numbers that come into a text, and a text with another one behind it.
- `script_conversion` — where the text of a value in a script is its conversion.
-/

namespace StepForge.Value

mutual

/-- **The conversion of a value** to a text. An integer is a number like any other, if it is small enough to be one
exactly. -/
def Converts : Value → Text → Prop
  | null, t => t = "undefined"
  | bool b, t => t = if b then "true" else "false"
  | int n, t => n.natAbs < 2 ^ 53 ∧ ∃ x : Binary64, x.isFinite = true ∧ x.number = n ∧ x.NumberString t
  | float x, t => x.isFinite = true ∧ x.NumberString t
  | str s, t => t = s
  | list items, t => ∃ ts, ConvertsItems items ts ∧ t = Text.join "," ts
  | map _, t => t = "[object Object]"
  | _, _ => False

/-- The conversions of the items of a list: nothing for null. -/
def ConvertsItems : List Value → List Text → Prop
  | [], ts => ts = []
  | v :: vs, ts =>
      ∃ u us, (v = null ∧ u = [] ∨ v ≠ null ∧ Converts v u) ∧ ConvertsItems vs us ∧ ts = u :: us

end

mutual

/-- Values without dates, bytes and knots, whose integers are exact as numbers with a point and whose numbers with a
point are finite. A mapping may hold anything. -/
def IsParsed : Value → Prop
  | null | bool _ | str _ | map _ => True
  | int n => n.natAbs < 2 ^ 53
  | float x => x.isFinite = true
  | list items => AreParsed items
  | _ => False

/-- All items of a list are such values. -/
def AreParsed : List Value → Prop
  | [] => True
  | v :: vs => IsParsed v ∧ AreParsed vs

end

mutual

/-- The numbers with a point that come into the text of a value. -/
def shownFloats : Value → List Binary64
  | float x => [x]
  | list items => shownFloatsOf items
  | _ => []

/-- Those that come into the texts of the items of a list. -/
def shownFloatsOf : List Value → List Binary64
  | [] => []
  | v :: vs => shownFloats v ++ shownFloatsOf vs

end

/-! ## Integers -/

/-- **An integer below the fifty-third power of two** is the number of a datum. -/
theorem exists_number {n : ℤ} (hn : n.natAbs < 2 ^ 53) :
    ∃ x : Binary64, x.isFinite = true ∧ x.number = n := by
  obtain ⟨y, hy, hamount⟩ := Binary64.exists_amount_eq hn
  refine ⟨{ y with negative := decide (n < 0) }, hy, ?_⟩
  rw [Binary64.number_of_amount (x := { y with negative := decide (n < 0) }) hamount]
  congr 1
  split
  · next hneg =>
      have hneg' : n < 0 := by simpa using hneg
      omega
  · next hneg =>
      have hneg' : 0 ≤ n := by simpa using hneg
      omega

/-- The conversion of an integer is its numeral. -/
theorem converts_int_iff {n : ℤ} {t : Text} (hn : n.natAbs < 2 ^ 53) : (int n).Converts t ↔ t = Text.ofInt n := by
  have hnumeral : ∀ {x : Binary64} {u : Text}, x.isFinite = true → x.number = n → x.NumberString u →
      u = Text.ofInt n := by
    intro x u hx hnumber h
    have hamount : x.amount = n.natAbs := by
      rw [← Binary64.abs_number, hnumber, Nat.cast_natAbs, Int.cast_abs]
    rw [← (Binary64.scriptText_float_iff hx h).2 (Binary64.sameInScript_of_small hx hamount hn)]
    unfold scriptText
    rw [Binary64.not_isNaN hx, hx, Binary64.toInt?_eq_some_iff.2 ⟨hx, hnumber⟩]
    rfl
  unfold Converts
  constructor
  · rintro ⟨-, x, hx, hnumber, h⟩
    exact hnumeral hx hnumber h
  · rintro rfl
    obtain ⟨x, hx, hnumber⟩ := exists_number hn
    obtain ⟨u, hu⟩ := Binary64.exists_numberString hx
    have hstring := (hu u).2 rfl
    have heq := hnumeral hx hnumber hstring
    exact ⟨hn, x, hx, hnumber, heq ▸ hstring⟩

/-! ## One conversion -/

mutual

/-- **Every such value has one conversion.** -/
theorem exists_converts {v : Value} (h : v.IsParsed) : ∃ t, ∀ u, v.Converts u ↔ u = t := by
  cases v with
  | null => exact ⟨_, fun u => Iff.rfl⟩
  | bool b => exact ⟨_, fun u => Iff.rfl⟩
  | str s => exact ⟨s, fun u => Iff.rfl⟩
  | map es => exact ⟨_, fun u => Iff.rfl⟩
  | int n => exact ⟨Text.ofInt n, fun u => converts_int_iff h⟩
  | float x =>
      obtain ⟨t, ht⟩ := Binary64.exists_numberString h
      exact ⟨t, fun u => (and_iff_right h).trans (ht u)⟩
  | list vs =>
      obtain ⟨ts, hts⟩ := @exists_convertsItems vs h
      refine ⟨Text.join "," ts, fun u => ⟨?_, ?_⟩⟩
      · rintro ⟨us, hus, rfl⟩
        rw [(hts us).1 hus]
      · rintro rfl
        exact ⟨ts, (hts ts).2 rfl, rfl⟩
  | set vs => exact h.elim
  | date d => exact h.elim
  | moment m => exact h.elim
  | bytes bs => exact h.elim
  | tuple vs => exact h.elim
  | knot name body => exact h.elim
  | again name mapping => exact h.elim

/-- The items of a list have one conversion each. -/
theorem exists_convertsItems {vs : List Value} (h : AreParsed vs) :
    ∃ ts, ∀ us, ConvertsItems vs us ↔ us = ts := by
  cases vs with
  | nil => exact ⟨[], fun us => Iff.rfl⟩
  | cons v vs =>
      obtain ⟨hv, hvs⟩ := h
      obtain ⟨t, ht⟩ := exists_converts hv
      obtain ⟨ts, hts⟩ := exists_convertsItems hvs
      by_cases hnull : v = null
      · refine ⟨[] :: ts, fun us => ⟨?_, ?_⟩⟩
        · rintro ⟨u, us, hu | hu, hus, rfl⟩
          · rw [hu.2, (hts us).1 hus]
          · exact absurd hnull hu.1
        · rintro rfl
          exact ⟨[], ts, Or.inl ⟨hnull, rfl⟩, (hts ts).2 rfl, rfl⟩
      · refine ⟨t :: ts, fun us => ⟨?_, ?_⟩⟩
        · rintro ⟨u, us, hu | hu, hus, rfl⟩
          · exact absurd hu.1 hnull
          · rw [(ht u).1 hu.2, (hts us).1 hus]
        · rintro rfl
          exact ⟨t, ts, Or.inr ⟨hnull, (ht t).2 rfl⟩, (hts ts).2 rfl, rfl⟩

end

/-! ## Texts without faults -/

mutual

/-- **Such a value has a text**: no integer in it is too long, and no list leads back into itself. -/
theorem scriptFault?_eq_none {v : Value} (h : v.IsParsed) : v.scriptFault? = none := by
  cases v with
  | null => rfl
  | bool b => rfl
  | str s => rfl
  | map es => rfl
  | int n =>
      have hlength : (Text.ofNat n.natAbs).length ≤ 16 :=
        (Text.length_ofNat_le_iff (by decide)).2 (lt_of_lt_of_le h (by norm_num))
      have hlong : (int n).isLong = false :=
        decide_eq_false (Nat.not_lt.2 (hlength.trans (by decide)))
      show (if (int n).isLong then some ValueFault.long else none) = none
      rw [hlong]
      rfl
  | float x => rfl
  | list vs => exact itemsFault?_eq_none h
  | set vs => exact h.elim
  | date d => exact h.elim
  | moment m => exact h.elim
  | bytes bs => exact h.elim
  | tuple vs => exact h.elim
  | knot name body => exact h.elim
  | again name mapping => exact h.elim

theorem itemsFault?_eq_none {vs : List Value} (h : AreParsed vs) : itemsFault? vs = none := by
  cases vs with
  | nil => rfl
  | cons v vs =>
      unfold itemsFault?
      rw [scriptFault?_eq_none h.1]
      exact itemsFault?_eq_none h.2

end

/-! ## Texts behind texts -/

/-- What can stand behind the text of an item: nothing, or something behind a comma. -/
def Behind (r : Text) : Prop := ∀ c ∈ r.head?, c = ','.toNat

theorem behind_nil : Behind [] := by
  intro c hc
  cases hc

theorem behind_comma (r : Text) : Behind (("," : Text) ++ r) := by
  intro c hc
  exact (Option.some.inj hc).symm

/-- Texts without commas end where what is behind them begins. -/
theorem append_inj_of_no_comma {s t r r' : Text} (hs : ','.toNat ∉ s) (ht : ','.toNat ∉ t) (hr : Behind r)
    (hr' : Behind r') : s ++ r = t ++ r' ↔ s = t ∧ r = r' := by
  constructor
  · intro heq
    rcases List.append_eq_append_iff.1 heq with ⟨m, rfl, rfl⟩ | ⟨m, rfl, rfl⟩
    · cases m with
      | nil => simp
      | cons c m =>
          obtain rfl := hr c rfl
          exact absurd (List.mem_append_right s (List.mem_cons_self ..)) ht
    · cases m with
      | nil => simp
      | cons c m =>
          obtain rfl := hr' c rfl
          exact absurd (List.mem_append_right t (List.mem_cons_self ..)) hs
  · rintro ⟨rfl, rfl⟩
    rfl

variable {t r r' : Text}

/-- A value that shows no number with a point and whose text is its conversion. -/
theorem append_eq_append_iff_of_eq {v : Value} (h : v.scriptText = t) (hfloats : v.shownFloats = []) :
    v.scriptText ++ r = t ++ r' ↔ (∀ x ∈ v.shownFloats, x.SameInScript) ∧ r = r' := by
  rw [h, hfloats, List.append_right_inj]
  simp

theorem scriptItems_cons_of_ne {v : Value} (h : v ≠ null) (vs : List Value) :
    scriptItems (v :: vs) = v.scriptText :: scriptItems vs := by
  cases v with
  | null => exact absurd rfl h
  | _ => rfl

/-- The first item of a list is compared before what stands behind it. -/
theorem join_cons_append_iff {v : Value} {vs : List Value} {w u : Text} {us : List Text}
    (hitems : scriptItems (v :: vs) = w :: scriptItems vs)
    (hfirst : ∀ q q' : Text, Behind q → Behind q' →
      (w ++ q = u ++ q' ↔ (∀ x ∈ v.shownFloats, x.SameInScript) ∧ q = q'))
    (hr : Behind r) (hr' : Behind r') (hus : ConvertsItems vs us)
    (hrest : Text.join "," (scriptItems vs) ++ r = Text.join "," us ++ r' ↔
      (∀ x ∈ shownFloatsOf vs, x.SameInScript) ∧ r = r') :
    Text.join "," (scriptItems (v :: vs)) ++ r = Text.join "," (u :: us) ++ r' ↔
      (∀ x ∈ shownFloatsOf (v :: vs), x.SameInScript) ∧ r = r' := by
  have hshown : shownFloatsOf (v :: vs) = v.shownFloats ++ shownFloatsOf vs := rfl
  rw [hitems, hshown, List.forall_mem_append, and_assoc]
  cases vs with
  | nil =>
      cases hus
      rw [scriptItems, Text.join_singleton, Text.join_singleton, hfirst r r' hr hr']
      simp [shownFloatsOf]
  | cons v' vs =>
      obtain ⟨u', us, -, -, rfl⟩ := hus
      obtain ⟨w', hw'⟩ : ∃ w', scriptItems (v' :: vs) = w' :: scriptItems vs := by
        cases v' with
        | _ => exact ⟨_, rfl⟩
      rw [hw'] at hrest ⊢
      rw [Text.join_cons_cons, Text.join_cons_cons, List.append_assoc, List.append_assoc, List.append_assoc,
        List.append_assoc, hfirst _ _ (behind_comma _) (behind_comma _), List.append_right_inj, hrest]

mutual

/-- **The text of a value with another text behind it** is its conversion with that text behind it exactly if the
numbers with a point that it shows have their conversions as their texts. -/
theorem append_eq_append_iff {v : Value} {t r r' : Text} (h : v.Converts t) (hr : Behind r) (hr' : Behind r') :
    v.scriptText ++ r = t ++ r' ↔ (∀ x ∈ v.shownFloats, x.SameInScript) ∧ r = r' := by
  cases v with
  | null => exact append_eq_append_iff_of_eq h.symm rfl
  | bool b =>
      refine append_eq_append_iff_of_eq ?_ rfl
      rw [show t = _ from h]
      cases b with
      | true => rfl
      | false => rfl
  | str s => exact append_eq_append_iff_of_eq h.symm rfl
  | map es => exact append_eq_append_iff_of_eq h.symm rfl
  | int n => exact append_eq_append_iff_of_eq ((converts_int_iff h.1).1 h).symm rfl
  | float x =>
      obtain ⟨hx, hstring⟩ := h
      rw [append_inj_of_no_comma (Binary64.comma_not_mem_scriptText hx)
        (Binary64.comma_not_mem_of_numberString hstring) hr hr', Binary64.scriptText_float_iff hx hstring]
      simp [shownFloats]
  | list vs =>
      obtain ⟨ts, hts, rfl⟩ := h
      exact join_append_eq_iff hts hr hr'
  | set vs => exact h.elim
  | date d => exact h.elim
  | moment m => exact h.elim
  | bytes bs => exact h.elim
  | tuple vs => exact h.elim
  | knot name body => exact h.elim
  | again name mapping => exact h.elim

/-- The same for the items of a list with commas between. -/
theorem join_append_eq_iff {vs : List Value} {ts : List Text} {r r' : Text} (h : ConvertsItems vs ts) (hr : Behind r)
    (hr' : Behind r') :
    Text.join "," (scriptItems vs) ++ r = Text.join "," ts ++ r' ↔
      (∀ x ∈ shownFloatsOf vs, x.SameInScript) ∧ r = r' := by
  cases vs with
  | nil =>
      cases h
      simp [scriptItems, shownFloatsOf]
  | cons v vs =>
      obtain ⟨u, us, hu, hus, rfl⟩ := h
      have hrest := join_append_eq_iff hus hr hr'
      rcases hu with ⟨rfl, rfl⟩ | ⟨hne, hu⟩
      · refine join_cons_append_iff rfl (fun q q' _ _ => ?_) hr hr' hus hrest
        simp [shownFloats]
      · exact join_cons_append_iff (scriptItems_cons_of_ne hne vs)
          (fun q q' hq hq' => append_eq_append_iff hu hq hq') hr hr' hus hrest

end

/-! ## The text of a value -/

/-- **The text of a value in a script** is its conversion exactly if every number with a point that comes into it has
its conversion as its text. That an interpreter gives up on values nested too deep for its recursion limit is left
out: here values of every depth have a text. -/
theorem script_conversion {v : Value} (h : v.IsParsed) :
    ∃ t, (∀ u, v.Converts u ↔ u = t) ∧ v.quotedInScript = .ok (("'" : Text) ++ v.scriptText ++ "'") ∧
      (v.scriptText = t ↔ ∀ x ∈ v.shownFloats, x.SameInScript) := by
  obtain ⟨t, ht⟩ := exists_converts h
  refine ⟨t, ht, ?_, ?_⟩
  · unfold quotedInScript
    rw [scriptFault?_eq_none h]
    rfl
  · -- With nothing behind the text.
    have happend := append_eq_append_iff ((ht t).2 rfl) behind_nil behind_nil
    simpa using happend

/-- The datum nearest to a hundred-thousandth. -/
def hundredThousandth : Binary64 := ⟨false, ⟨1006, by decide⟩, ⟨1399358476216561, by decide⟩⟩

theorem numberString_hundredThousandth : hundredThousandth.NumberString "0.00001" := by
  have hshortest : hundredThousandth.shortest = ⟨1, -5⟩ := by decide +kernel
  obtain ⟨k, hk⟩ := Binary64.isDigits_shortest (x := hundredThousandth) rfl (by decide)
  rw [hshortest] at hk
  obtain rfl := hk.digits.unique ⟨Nat.one_pos, Nat.le_refl 1, by decide⟩
  exact .digits (by decide) hk

/-- A hundred-thousandth has an exponent in a script and none in its conversion, as an item of a list as well. -/
theorem script_conversion_small :
    (list [null, float hundredThousandth]).IsParsed ∧
      (list [null, float hundredThousandth]).Converts ",0.00001" ∧
      (list [null, float hundredThousandth]).quotedInScript = .ok "',1e-05'" ∧
      ¬ hundredThousandth.SameInScript := by
  have hparsed : (list [null, float hundredThousandth]).IsParsed := ⟨trivial, rfl, trivial⟩
  have hconverts : (list [null, float hundredThousandth]).Converts ",0.00001" :=
    ⟨[[], "0.00001"], ⟨[], ["0.00001"], Or.inl ⟨rfl, rfl⟩, ⟨"0.00001", [],
      Or.inr ⟨Value.noConfusion, rfl, numberString_hundredThousandth⟩, rfl, rfl⟩, rfl⟩, rfl⟩
  have htext : (list [null, float hundredThousandth]).scriptText = ",1e-05" := by decide +kernel
  obtain ⟨t, hone, hquoted, hsame⟩ := script_conversion hparsed
  obtain rfl := (hone _).1 hconverts
  rw [htext] at hquoted hsame
  refine ⟨hparsed, hconverts, hquoted, fun h => ?_⟩
  have heq := hsame.2 fun x hx => by
    obtain rfl := List.mem_singleton.1 hx
    exact h
  exact absurd heq (by decide)

end StepForge.Value
