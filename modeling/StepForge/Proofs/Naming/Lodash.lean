import StepForge.Proofs.Naming.Boundaries

/-!
# `StepForge.Proofs.Naming.Lodash` — keys whose words lodash sees in the same way

The pattern by which lodash finds the words of a text in ASCII has seven alternatives. Five of them tell the same
words apart as the shorter pattern of this library, although they look further ahead. The other two are ordinals:
digits keep the two letters that make them a number in order, as in `1st`, when the letters end there. Such a
word is cut in two here. So the words are the same exactly when no ordinal is in the text.

## Contents
- `lodashPattern`, `lodashWords` — the words of a text in ASCII as lodash finds them.
- `OrdinalCase.startsAt`, `hasOrdinal` — where an ordinal is in a text.
- `rests_pattern_digits`, `head?_lodash_letters`, `head?_lodash_capitals`, `head?_lodash_digits` — what lodash finds first.
- `lodashWords_eq_iff` — when the words are the same.
-/

namespace StepForge.Naming

open Text (Pattern)

/-! ## The pattern -/

/-- The letters of ordinals in one case: what stands behind a last digit 1, 2 or 3, and behind any other. -/
structure OrdinalCase where
  st : Text
  nd : Text
  rd : Text
  th : Text
  /-- The class of the letters. -/
  own : CharClass
  /-- The class of the letters of the other case, which may follow. -/
  other : CharClass
  cases : own = .capital ∧ other = .letter ∨ own = .letter ∧ other = .capital := by decide
  spelled : ∀ u ∈ [st, nd, rd, th], u ≠ [] ∧ ∀ c ∈ u, asciiClass c = own := by decide

/-- Ordinals with capitals. -/
def OrdinalCase.large : OrdinalCase where
  st := "ST"
  nd := "ND"
  rd := "RD"
  th := "TH"
  own := .capital
  other := .letter

/-- Ordinals with small letters. -/
def OrdinalCase.small : OrdinalCase where
  st := "st"
  nd := "nd"
  rd := "rd"
  th := "th"
  own := .letter
  other := .capital

/-- Where a word that ends in a letter has a border: no letter, digit or underscore follows. -/
def wordBorder : Pattern := .notAhead (.point fun c => asciiClass c != .separator || c == '_'.toNat)

namespace OrdinalCase

variable (o : OrdinalCase)

/-- The last digit of an ordinal with its letters. -/
def ending : Pattern :=
  (Pattern.literal ('1'.toNat :: o.st)).choice
    ((Pattern.literal ('2'.toNat :: o.nd)).choice
      ((Pattern.literal ('3'.toNat :: o.rd)).choice
        ((Pattern.notAhead (.point fun c => c == '1'.toNat || c == '2'.toNat || c == '3'.toNat)).next
          ((Pattern.point (isOf asciiClass .digit)).next (.literal o.th)))))

/-- What follows an ordinal: a border, an underscore or a letter of the other case. -/
def border : Pattern := wordBorder.choice ((Pattern.point (· == '_'.toNat)).choice (.point (isOf asciiClass o.other)))

/-- An ordinal: digits, the last one with its letters, and the border behind them. -/
def pattern : Pattern := (Pattern.many (isOf asciiClass .digit)).next (o.ending.next o.border.ahead)

end OrdinalCase

/-- Behind a word of letters: a break, a capital or the end. -/
def lettersBehind : Pattern :=
  (Pattern.point (isOf asciiClass .separator)).choice ((Pattern.point (isOf asciiClass .capital)).choice .finish)

/-- Behind a word of capitals: a break, a capital with a small letter, or the end. -/
def capitalsBehind : Pattern :=
  (Pattern.point (isOf asciiClass .separator)).choice
    (((Pattern.point (isOf asciiClass .capital)).next (.point (isOf asciiClass .letter))).choice .finish)

/-- The word pattern of lodash 4.17 for texts in ASCII. -/
def lodashPattern : Pattern :=
  ((lettersPattern asciiClass).next lettersBehind.ahead).choice
    ((capitalsPattern asciiClass capitalsBehind.ahead).choice
      ((lettersPattern asciiClass).choice
        ((Pattern.run (isOf asciiClass .capital)).choice
          (OrdinalCase.large.pattern.choice
            (OrdinalCase.small.pattern.choice (.run (isOf asciiClass .digit)))))))

/-- The words of a text in ASCII as lodash finds them when the apostrophes are gone. -/
def lodashWords (s : Text) : List Text := lodashPattern.found (s.filter (· ≠ '\''.toNat))

/-! ## Ordinals -/

namespace OrdinalCase

variable (o : OrdinalCase)

/-- The letters that make an ordinal of a number, by its last digit. -/
def letters (d : CodePoint) : Text :=
  if d = '1'.toNat then o.st else if d = '2'.toNat then o.nd else if d = '3'.toNat then o.rd else o.th

/-- Whether an ordinal can end in front of a text: no digit follows, and no letter of the same case. -/
def endsBefore (t : Text) : Bool := !t.head?.any fun c => asciiClass c == .digit || asciiClass c == o.own

/-- What is left of a text behind the letters that make an ordinal of a number, by its last digit. -/
def behind? (d : CodePoint) (t : Text) : Option Text := (Text.dropStart? (o.letters d) t).filter o.endsBefore

/-- Whether a text begins with the last digit of an ordinal: with a digit and its letters, which end there. -/
def startsAt : Text → Bool
  | [] => false
  | d :: t => asciiClass d == .digit && (o.behind? d t).isSome

variable {o} {c d : CodePoint} {t w r : Text}

theorem letters_spec (o : OrdinalCase) (d : CodePoint) : o.letters d ≠ [] ∧ ∀ c ∈ o.letters d, asciiClass c = o.own := by
  unfold letters
  split
  · exact o.spelled _ (by simp)
  · split
    · exact o.spelled _ (by simp)
    · split
      · exact o.spelled _ (by simp)
      · exact o.spelled _ (by simp)

theorem own_ne_digit (o : OrdinalCase) : o.own ≠ .digit := by
  rcases o.cases with h | h
  · simp [h.1]
  · simp [h.1]

/-- A digit cannot stand where the letters of an ordinal begin. -/
theorem behind?_digit (hc : asciiClass c = .digit) : o.behind? d (c :: t) = none := by
  obtain ⟨hne, hown⟩ := o.letters_spec d
  obtain ⟨e, u, hu⟩ := List.exists_cons_of_ne_nil hne
  have he : e ≠ c := by
    rintro rfl
    exact o.own_ne_digit ((hown e (by simp [hu])).symm.trans hc)
  rw [behind?, hu, Text.dropStart?, if_neg he]
  rfl

theorem behind?_eq_some {x : Text} (h : o.behind? d t = some x) : t = o.letters d ++ x :=
  Text.dropStart?_eq_some_iff.1 (Option.filter_eq_some_iff.1 h).1

/-- Digits with the letters of an ordinal are of no shape of words. -/
theorem not_isShape (o : OrdinalCase) (hd : asciiClass d = .digit) : ¬ IsShape asciiClass (w ++ [d] ++ o.letters d) := by
  obtain ⟨hne, hown⟩ := o.letters_spec d
  obtain ⟨e, u, hu⟩ := List.exists_cons_of_ne_nil hne
  have he : asciiClass e = o.own := hown e (by simp [hu])
  intro h
  generalize hv : w ++ [d] ++ o.letters d = v at h
  have hdigit : d ∈ v := by simp [← hv]
  have hletter : e ∈ v := by simp [← hv, hu]
  cases h with
  | letters hfront _ hw =>
      rcases List.mem_append.1 hdigit with hmem | hmem
      · simp [hfront d (by simpa using hmem)] at hd
      · simp [hw d hmem] at hd
  | capitals _ hw => simp [hw d hdigit] at hd
  | digits _ hw => exact o.own_ne_digit (he ▸ hw e hletter)

/-- A border, an underscore or a letter of the other case stands where no digit and no letter of the same case
does. -/
theorem rests_border (t : Text) : o.border.ahead.rests t = if o.endsBefore t then [t] else [] := by
  rw [Pattern.rests_ahead]
  cases t with
  | nil => rfl
  | cons c t =>
      have hline : asciiClass 95 = .separator := rfl
      cases hk : asciiClass c with
      | separator =>
          by_cases hc : c = 95 <;> rcases o.cases with h | h <;>
            simp [border, wordBorder, endsBefore, Pattern.rests, isOf, hk, hline, h, hc]
      | capital =>
          have hc : c ≠ 95 := by rintro rfl; cases hk
          rcases o.cases with h | h <;> simp [border, wordBorder, endsBefore, Pattern.rests, isOf, hk, h, hc]
      | letter =>
          have hc : c ≠ 95 := by rintro rfl; cases hk
          rcases o.cases with h | h <;> simp [border, wordBorder, endsBefore, Pattern.rests, isOf, hk, h, hc]
      | digit =>
          have hc : c ≠ 95 := by rintro rfl; cases hk
          rcases o.cases with h | h <;> simp [border, wordBorder, endsBefore, Pattern.rests, isOf, hk, h, hc]

/-- A digit ends an ordinal with its own letters. -/
theorem rests_ending_digit (hd : asciiClass d = .digit) (t : Text) :
    o.ending.rests (d :: t) = (Text.dropStart? (o.letters d) t).toList := by
  have hdigit : isOf asciiClass .digit d = true := isOf_iff.2 hd
  by_cases h1 : d = 49
  · simp [ending, letters, Pattern.rests, Pattern.rests_literal, Text.dropStart?, h1]
  · by_cases h2 : d = 50
    · simp [ending, letters, Pattern.rests, Pattern.rests_literal, Text.dropStart?, h2]
    · by_cases h3 : d = 51
      · simp [ending, letters, Pattern.rests, Pattern.rests_literal, Text.dropStart?, h3]
      · simp [ending, letters, Pattern.rests, Pattern.rests_literal, Text.dropStart?, h1, h2, h3, hdigit,
          Ne.symm h1, Ne.symm h2, Ne.symm h3]

/-- Nothing but a digit ends an ordinal. -/
theorem rests_ending_refused (ht : t.head?.any (isOf asciiClass .digit) = false) : o.ending.rests t = [] := by
  have hth : ((Pattern.point (isOf asciiClass .digit)).next (.literal o.th)).rests t = [] := by
    rw [Pattern.rests_next, Pattern.rests_point_refused ht]
    rfl
  have hliteral : ∀ d u, asciiClass d = .digit → (Pattern.literal (d :: u)).rests t = [] := by
    intro d u hd
    cases t with
    | nil => rfl
    | cons c t =>
        have hne : d ≠ c := by
          rintro rfl
          rw [List.head?_cons, Option.any_some, isOf_iff.2 hd] at ht
          cases ht
        rw [Pattern.rests_literal, Text.dropStart?, if_neg hne]
        rfl
  rw [ending, Pattern.rests_choice, Pattern.rests_choice, Pattern.rests_choice, hliteral _ _ rfl, hliteral _ _ rfl,
    hliteral _ _ rfl, Pattern.rests_notAhead_next hth]
  rfl

/-- The last digit of an ordinal, its letters and its border. -/
theorem rests_ending_border (hd : asciiClass d = .digit) (t : Text) :
    (o.ending.next o.border.ahead).rests (d :: t) = (o.behind? d t).toList := by
  rw [Pattern.rests_next, rests_ending_digit hd, behind?]
  cases Text.dropStart? (o.letters d) t with
  | none => rfl
  | some r =>
      rw [Option.toList_some, List.flatMap_singleton, rests_border, Option.filter_some]
      split <;> rfl

/-- **An ordinal is found behind its digits**, if its letters are there. -/
theorem rests_pattern_digits (hw : ∀ c ∈ w, asciiClass c = .digit) (hd : asciiClass d = .digit)
    (hr : r.head?.any (isOf asciiClass .digit) = false) :
    o.pattern.rests (w ++ d :: r) = (o.behind? d r).toList := by
  have hrefused : (o.ending.next o.border.ahead).rests r = [] := by
    rw [Pattern.rests_next, rests_ending_refused hr]
    rfl
  -- In front of a digit no other digit has letters behind it.
  have hinner : ∀ s, s ≠ [] → s <:+ w → (o.ending.next o.border.ahead).rests (s ++ d :: r) = [] := by
    intro s hs hsuffix
    obtain ⟨c, u, rfl⟩ := List.exists_cons_of_ne_nil hs
    have hc : asciiClass c = .digit := hw c (hsuffix.subset (by simp))
    have hnone : o.behind? c (u ++ d :: r) = none := by
      cases u with
      | nil => exact behind?_digit hd
      | cons e u => exact behind?_digit (hw e (hsuffix.subset (by simp)))
    rw [List.cons_append, rests_ending_border hc, hnone]
    rfl
  rw [pattern, Pattern.rests_many_next (isOf_of_all hw) hinner, Pattern.rests_many_next_cons (isOf_iff.2 hd),
    Pattern.rests_next, Pattern.rests_many_stop hr, List.flatMap_singleton, hrefused, List.nil_append,
    rests_ending_border hd]

/-- Where no digit stands there is no ordinal. -/
theorem rests_pattern_refused (ht : t.head?.any (isOf asciiClass .digit) = false) : o.pattern.rests t = [] := by
  rw [pattern, Pattern.rests_next, Pattern.rests_many_stop ht, List.flatMap_singleton, Pattern.rests_next,
    rests_ending_refused ht]
  rfl

end OrdinalCase

/-- Whether a text begins with the last digit of an ordinal. -/
def startsOrdinal (t : Text) : Bool := OrdinalCase.large.startsAt t || OrdinalCase.small.startsAt t

/-- Whether an ordinal is in a text. -/
def hasOrdinal : Text → Bool
  | [] => false
  | c :: t => startsOrdinal (c :: t) || hasOrdinal t

section Ordinals

variable {c d : CodePoint} {w r t : Text}

theorem startsOrdinal_digit (hd : asciiClass d = .digit) (t : Text) :
    startsOrdinal (d :: t) = ((OrdinalCase.large.behind? d t).or (OrdinalCase.small.behind? d t)).isSome := by
  simp [startsOrdinal, OrdinalCase.startsAt, hd]

theorem hasOrdinal_cons_other (hc : asciiClass c ≠ .digit) (t : Text) : hasOrdinal (c :: t) = hasOrdinal t := by
  simp [hasOrdinal, startsOrdinal, OrdinalCase.startsAt, hc]

theorem hasOrdinal_other (hw : ∀ c ∈ w, asciiClass c ≠ .digit) (r : Text) : hasOrdinal (w ++ r) = hasOrdinal r := by
  induction w with
  | nil => rfl
  | cons c w ih =>
      rw [List.cons_append, hasOrdinal_cons_other (hw c (by simp)), ih fun d hd => hw d (List.mem_cons_of_mem c hd)]

/-- Of digits only the last one can be that of an ordinal. -/
theorem hasOrdinal_digits (hw : ∀ c ∈ w, asciiClass c = .digit) (hd : asciiClass d = .digit) (r : Text) :
    hasOrdinal (w ++ d :: r) = (startsOrdinal (d :: r) || hasOrdinal r) := by
  induction w with
  | nil => rfl
  | cons c w ih =>
      have hc : asciiClass c = .digit := hw c (by simp)
      have hrest : ∀ e ∈ w, asciiClass e = .digit := fun e he => hw e (List.mem_cons_of_mem c he)
      have hnone : ∀ o : OrdinalCase, o.behind? c (w ++ d :: r) = none := by
        intro o
        cases w with
        | nil => exact OrdinalCase.behind?_digit hd
        | cons e w => exact OrdinalCase.behind?_digit (hrest e (by simp))
      have hstart : startsOrdinal (c :: (w ++ d :: r)) = false := by
        rw [startsOrdinal_digit hc, hnone, hnone]
        rfl
      rw [List.cons_append, hasOrdinal, hstart, Bool.false_or, ih hrest]

end Ordinals

/-! ## The first word -/

section First

variable {front : Option CodePoint} {c d : CodePoint} {t v w r : Text}

theorem rests_lettersBehind_refused (h : t.head?.any (isOf asciiClass .letter) = true) :
    lettersBehind.ahead.rests t = [] := by
  cases t with
  | nil => cases h
  | cons c t =>
      have hc : asciiClass c = .letter := isOf_iff.1 h
      simp [Pattern.rests_ahead, lettersBehind, Pattern.finish, Pattern.rests, isOf, hc]

theorem rests_capitalsBehind_refused (h : t.head?.any (isOf asciiClass .letter) = true) :
    capitalsBehind.ahead.rests t = [] := by
  cases t with
  | nil => cases h
  | cons c t =>
      have hc : asciiClass c = .letter := isOf_iff.1 h
      simp [Pattern.rests_ahead, capitalsBehind, Pattern.finish, Pattern.rests, isOf, hc]

/-- A capital with a small letter behind it begins another word. -/
theorem rests_capitalsBehind_word (hc : asciiClass c = .capital) (h : t.head?.any (isOf asciiClass .letter) = true) :
    capitalsBehind.ahead.rests (c :: t) = [c :: t] := by
  cases t with
  | nil => cases h
  | cons d t =>
      have hd : asciiClass d = .letter := isOf_iff.1 h
      simp [Pattern.rests_ahead, capitalsBehind, Pattern.rests, isOf, hc, hd]

theorem rests_capitalsBehind_capital (hc : asciiClass c = .capital) (h : t.head?.any (isOf asciiClass .letter) = false) :
    capitalsBehind.ahead.rests (c :: t) = [] := by
  have hcap : isOf asciiClass .capital c = true := isOf_iff.2 hc
  have hpair : ((Pattern.point (isOf asciiClass .capital)).next (.point (isOf asciiClass .letter))).rests (c :: t) = [] := by
    rw [Pattern.rests_next, Pattern.rests_point_cons hcap, List.flatMap_singleton, Pattern.rests_point_refused h]
  rw [Pattern.rests_ahead, capitalsBehind, Pattern.rests_choice, Pattern.rests_choice, hpair,
    Pattern.rests_point_refused (head?_any_isOf hc (by simp))]
  rfl

/-- What looks ahead leaves a text as it is or refuses it. -/
theorem eq_of_mem_rests_ahead {p : Pattern} {x : Text} (h : x ∈ p.ahead.rests t) : x = t := by
  rw [Pattern.rests_ahead] at h
  split at h
  · cases h
  · exact List.mem_singleton.1 h

/-- Ways that all leave the same text do not change what is left behind the preferred one. -/
theorem head?_append_of_all {a b : List Text} (ha : ∀ x ∈ a, x = r) (hb : b.head? = some r) :
    (a ++ b).head? = some r := by
  cases a with
  | nil => exact hb
  | cons x a => rw [List.cons_append, List.head?_cons, ha x (by simp)]

/-- **A word of letters**: looking ahead does not make it shorter. -/
theorem head?_lodash_letters (hfront : ∀ u ∈ front, asciiClass u = .capital) (hne : w ≠ [])
    (hw : ∀ c ∈ w, asciiClass c = .letter) (hr : r.head?.any (isOf asciiClass .letter) = false) :
    (lodashPattern.rests (front.toList ++ w ++ r)).head? = some r := by
  have hfirst : ∀ x ∈ ((lettersPattern asciiClass).next lettersBehind.ahead).rests (front.toList ++ w ++ r), x = r := by
    intro x hx
    rw [Pattern.rests_next, rests_letters hfront hne hw, List.mem_flatMap] at hx
    obtain ⟨y, hy, hx⟩ := hx
    obtain ⟨s, hs, rfl⟩ := Pattern.mem_rests_run (isOf_of_all hw) hr hy
    cases s with
    | nil => exact eq_of_mem_rests_ahead hx
    | cons c s =>
        have hletter : ((c :: s) ++ r).head?.any (isOf asciiClass .letter) = true :=
          isOf_iff.2 (hw c (hs.subset (by simp)))
        rw [rests_lettersBehind_refused hletter] at hx
        cases hx
  have hsecond : (capitalsPattern asciiClass capitalsBehind.ahead).rests (front.toList ++ w ++ r) = [] := by
    cases front with
    | none => exact rests_capitals_refused (head?_any_run hne hw (by simp) r)
    | some u =>
        have hstart : (w ++ r).head?.any (isOf asciiClass .letter) = true := by
          obtain ⟨c, v, rfl⟩ := List.exists_cons_of_ne_nil hne
          exact isOf_iff.2 (hw c (by simp))
        rw [Option.toList_some, List.singleton_append, List.cons_append, capitalsPattern,
          Pattern.rests_run_next (isOf_iff.2 (hfront u rfl)), Pattern.rests_next,
          Pattern.rests_many_stop (head?_any_run hne hw (by simp) r), List.flatMap_singleton,
          rests_capitalsBehind_refused hstart]
  rw [lodashPattern, Pattern.rests_choice, Pattern.rests_choice, Pattern.rests_choice, hsecond, List.nil_append]
  refine head?_append_of_all hfirst ?_
  rw [List.head?_append, head?_letters hfront hne hw hr]
  rfl

/-- **A word of capitals**: looking ahead takes the same capitals. -/
theorem head?_lodash_capitals (hne : w ≠ []) (hw : ∀ c ∈ w, asciiClass c = .capital)
    (hr : r.head?.any (isOf asciiClass .letter) = false)
    (hlast : ∀ u t, r = u :: t → asciiClass u = .capital → t.head?.any (isOf asciiClass .letter) = true) :
    (lodashPattern.rests (w ++ r)).head? = some r := by
  have hletters := rests_letters_capitals hne hw hr
  rw [lodashPattern, Pattern.rests_choice, Pattern.rests_choice, Pattern.rests_choice, Pattern.rests_choice,
    Pattern.rests_next, hletters, List.flatMap_nil, List.nil_append, List.nil_append]
  by_cases hcap : r.head?.any (isOf asciiClass .capital) = true
  · have hbehind : (capitalsBehind.ahead.rests r).head? = some r := by
      cases r with
      | nil => cases hcap
      | cons u t =>
          have hu : asciiClass u = .capital := isOf_iff.1 hcap
          rw [rests_capitalsBehind_word hu (hlast u t rfl hu)]
          rfl
    rw [List.head?_append, head?_capitals hne hw hlast hbehind fun t => rests_capitalsBehind_refused]
    rfl
  · have hstop : r.head?.any (isOf asciiClass .capital) = false := by simpa using hcap
    have hsecond : ∀ x ∈ (capitalsPattern asciiClass capitalsBehind.ahead).rests (w ++ r), x = r := by
      intro x hx
      rw [capitalsPattern, Pattern.rests_next, List.mem_flatMap] at hx
      obtain ⟨y, hy, hx⟩ := hx
      obtain ⟨s, hs, rfl⟩ := Pattern.mem_rests_run (isOf_of_all hw) hstop hy
      cases s with
      | nil => exact eq_of_mem_rests_ahead hx
      | cons c s =>
          have hc : asciiClass c = .capital := hw c (hs.subset (by simp))
          have hnext : (s ++ r).head?.any (isOf asciiClass .letter) = false := by
            cases s with
            | nil => exact hr
            | cons d s => exact head?_any_isOf (hw d (hs.subset (by simp))) (by simp)
          rw [List.cons_append, rests_capitalsBehind_capital hc hnext] at hx
          cases hx
    refine head?_append_of_all hsecond ?_
    rw [List.head?_append, Pattern.head?_run hne (isOf_of_all hw) hstop]
    rfl

/-- Where no letter stands there may be an ordinal, and digits. -/
theorem rests_lodash_other {t : Text} (hletter : t.head?.any (isOf asciiClass .letter) = false)
    (hcap : t.head?.any (isOf asciiClass .capital) = false) :
    lodashPattern.rests t =
      OrdinalCase.large.pattern.rests t ++
        (OrdinalCase.small.pattern.rests t ++ (Pattern.run (isOf asciiClass .digit)).rests t) := by
  have hletters : (lettersPattern asciiClass).rests t = [] := by
    refine rests_letters_refused hletter ?_
    rintro u r rfl hu
    rw [List.head?_cons, Option.any_some, isOf_iff.2 hu] at hcap
    cases hcap
  rw [lodashPattern, Pattern.rests_choice, Pattern.rests_choice, Pattern.rests_choice, Pattern.rests_choice,
    Pattern.rests_choice, Pattern.rests_choice, Pattern.rests_next, hletters, rests_capitals_refused hcap,
    Pattern.rests_run_refused hcap, List.flatMap_nil, List.nil_append, List.nil_append, List.nil_append,
    List.nil_append]

/-- **A word of digits** is an ordinal, or else digits. -/
theorem head?_lodash_digits (hw : ∀ c ∈ w, asciiClass c = .digit) (hd : asciiClass d = .digit)
    (hr : r.head?.any (isOf asciiClass .digit) = false) :
    (lodashPattern.rests (w ++ d :: r)).head? =
      some (((OrdinalCase.large.behind? d r).or (OrdinalCase.small.behind? d r)).getD r) := by
  have hall : ∀ c ∈ w ++ [d], asciiClass c = .digit := by
    intro c hc
    rcases List.mem_append.1 hc with hc | hc
    · exact hw c hc
    · exact List.mem_singleton.1 hc ▸ hd
  have happend : w ++ d :: r = (w ++ [d]) ++ r := by simp
  have hother : ∀ k, k ≠ .digit → (w ++ d :: r).head?.any (isOf asciiClass k) = false := by
    intro k hk
    rw [happend]
    exact head?_any_run (by simp) hall hk.symm r
  have hrun : ((Pattern.run (isOf asciiClass .digit)).rests (w ++ d :: r)).head? = some r := by
    rw [happend]
    exact Pattern.head?_run (by simp) (isOf_of_all hall) hr
  rw [rests_lodash_other (hother _ (by simp)) (hother _ (by simp)), OrdinalCase.rests_pattern_digits hw hd hr,
    OrdinalCase.rests_pattern_digits hw hd hr, List.head?_append, List.head?_append, hrun, Option.head?_toList,
    Option.head?_toList]
  -- Capitals are tried in front of small letters, and plain digits last.
  cases OrdinalCase.large.behind? d r with
  | some x => rfl
  | none => cases OrdinalCase.small.behind? d r <;> rfl

/-- Where a break stands no word begins. -/
theorem rests_lodash_separator (hc : asciiClass c = .separator) (t : Text) : lodashPattern.rests (c :: t) = [] := by
  have hother : ∀ k, k ≠ .separator → (c :: t).head?.any (isOf asciiClass k) = false :=
    fun k hk => head?_any_isOf hc hk.symm
  rw [rests_lodash_other (hother _ (by simp)) (hother _ (by simp)),
    OrdinalCase.rests_pattern_refused (hother _ (by simp)), OrdinalCase.rests_pattern_refused (hother _ (by simp)),
    Pattern.rests_run_refused (hother _ (by simp))]
  rfl

/-- **The first word is found by lodash**, unless it is an ordinal, which is found with its letters. -/
theorem IsFirst.lodash_cases (h : IsFirst asciiClass w r) :
    (hasOrdinal (w ++ r) = hasOrdinal r ∧ lodashPattern.found (w ++ r) = w :: lodashPattern.found r) ∨
      (hasOrdinal (w ++ r) = true ∧ ∃ v ∈ lodashPattern.found (w ++ r), ¬ IsShape asciiClass v) := by
  have hne := h.shape.ne_nil
  cases h with
  | @letters front w r hfront hw' hw hr =>
      have hother : ∀ c ∈ front.toList ++ w, asciiClass c ≠ .digit := by
        intro c hc
        rcases List.mem_append.1 hc with hc | hc
        · simp [hfront c (by simpa using hc)]
        · simp [hw c hc]
      exact .inl ⟨hasOrdinal_other hother r, Pattern.found_append hne (head?_lodash_letters hfront hw' hw hr)⟩
  | capitals hw' hw hr hlast =>
      have hother : ∀ c ∈ w, asciiClass c ≠ .digit := fun c hc => by simp [hw c hc]
      exact .inl ⟨hasOrdinal_other hother r, Pattern.found_append hne (head?_lodash_capitals hne hw hr hlast)⟩
  | digits hw' hw hr =>
      obtain ⟨v, d, rfl⟩ : ∃ v d, w = v ++ [d] := ⟨_, _, (List.dropLast_concat_getLast hne).symm⟩
      have hd : asciiClass d = .digit := hw d (by simp)
      have hv : ∀ c ∈ v, asciiClass c = .digit := fun c hc => hw c (by simp [hc])
      have hhead := head?_lodash_digits hv hd hr
      have hordinal := hasOrdinal_digits hv hd r
      rw [startsOrdinal_digit hd] at hordinal
      have happend : v ++ [d] ++ r = v ++ d :: r := by simp
      rw [happend]
      cases hbehind : (OrdinalCase.large.behind? d r).or (OrdinalCase.small.behind? d r) with
      | none =>
          rw [hbehind] at hhead hordinal
          refine .inl ⟨hordinal, ?_⟩
          rw [← happend] at hhead ⊢
          exact Pattern.found_append hne hhead
      | some x =>
          rw [hbehind] at hhead hordinal
          obtain ⟨o, ho⟩ : ∃ o : OrdinalCase, o.behind? d r = some x := by
            rcases Option.or_eq_some_iff.1 hbehind with h | ⟨_, h⟩
            · exact ⟨_, h⟩
            · exact ⟨_, h⟩
          have hr' := OrdinalCase.behind?_eq_some ho
          refine .inr ⟨hordinal, v ++ [d] ++ o.letters d, ?_, o.not_isShape hd⟩
          have hsplit : v ++ d :: r = (v ++ [d] ++ o.letters d) ++ x := by simp [hr']
          rw [hsplit] at hhead ⊢
          rw [Pattern.found_append (by simp) hhead]
          exact List.mem_cons_self

end First

/-! ## The same words -/

/-- Without ordinals lodash finds the words of the rules, and with one it finds a word that they do not have. -/
theorem Cuts.lodash_cases {t : Text} {ws : List Text} (h : Cuts asciiClass t ws) :
    (hasOrdinal t = false ∧ lodashPattern.found t = ws) ∨
      (hasOrdinal t = true ∧ ∃ v ∈ lodashPattern.found t, ¬ IsShape asciiClass v) := by
  -- One word of a shape that no word of the rules has is enough, wherever it stands.
  induction h with
  | done => exact .inl ⟨rfl, rfl⟩
  | @separator c t ws hc _ ih =>
      rw [hasOrdinal_cons_other (by simp [hc]), Pattern.found_cons_of_refused (rests_lodash_separator hc t)]
      exact ih
  | word hw _ ih =>
      rcases hw.lodash_cases with ⟨hsame, hfound⟩ | hmixed
      · rw [hsame, hfound]
        rcases ih with ⟨hnone, heq⟩ | ⟨hsome, v, hv, hshape⟩
        · exact .inl ⟨hnone, by rw [heq]⟩
        · exact .inr ⟨hsome, v, List.mem_cons_of_mem _ hv, hshape⟩
      · exact .inr hmixed

/-- **When the words are those of lodash.** The words of a key in ASCII are the words that lodash finds exactly
when no ordinal is in the key when its apostrophes are gone. -/
theorem lodashWords_eq_iff {s : Text} (h : ∀ c ∈ s, c < 128) :
    words s = lodashWords s ↔ hasOrdinal (s.filter (· ≠ '\''.toNat)) = false := by
  have hcuts : Cuts asciiClass (s.filter (· ≠ '\''.toNat)) (words s) := by
    have hwords := cuts_words s
    rw [plain_of_ascii h] at hwords
    exact hwords.congr fun c hc => class_eq_asciiClass (h c (List.mem_filter.1 hc).1)
  rw [lodashWords]
  rcases hcuts.lodash_cases with ⟨hnone, hfound⟩ | ⟨hsome, v, hv, hshape⟩
  · exact iff_of_true hfound.symm hnone
  · refine iff_of_false ?_ (by rw [hsome]; decide)
    intro heq
    rw [← heq] at hv
    exact hshape (hcuts.shape v hv)

/-- A key with an ordinal has other words, and a key with a number alone has the same. -/
theorem firstPlace_words :
    (∀ c ∈ ("1st_place" : Text), c < 128) ∧ words "1st_place" ≠ lodashWords "1st_place" ∧
      words "XMLHttp2Request" = lodashWords "XMLHttp2Request" := by
  have hascii : ∀ c ∈ ("1st_place" : Text), c < 128 := by decide
  have hfirst := lodashWords_eq_iff hascii
  have hnumber := lodashWords_eq_iff (s := "XMLHttp2Request") (by decide)
  refine ⟨hascii, ?_, hnumber.2 (by decide)⟩
  rw [Ne, hfirst]
  decide

end StepForge.Naming
