import StepForge.Proofs.Naming.Ascii
import StepForge.Proofs.Naming.Points

/-!
# `StepForge.Proofs.Naming.Camel` — what a name in camel case shows of its words

In camel case a word behind the first is told by its capital. A word that begins with a digit, or with a
letter of a script without cases, has none: it runs on from the word in front of it, and a reader of the
name cannot see where it begins. So `v1_2` and `v12` have one name. This module says exactly how much is
lost: the words as they are seen (`seenWords`) can be read back from the name.

A few letters are set aside, those whose capital is several letters or belongs to another small letter.
No ASCII key has one (`isClear_of_ascii`).

## Contents
- `isSmall`, `isSmall_lower`, `lower_eq_self` — lower case is reached at once.
- `hasCapital`, `isCaseless`, `isClear` — keys whose words begin with a plain capital or with none.
- `seenWords`, `camelCase_eq_iff` — what a name shows.
- `isClear_of_ascii` — keys of ASCII code points.
-/

namespace StepForge

/-! ## Small letters -/

namespace Text

theorem Shift.image?_eq_some_iff {s : Shift} {c d : Nat} :
    s.image? c = some d ↔
      s.first ≤ c ∧ c ≤ s.last ∧ (c - s.first) % s.step = 0 ∧ d = s.image + (c - s.first) := by
  simp only [image?, Run.contains, Bool.and_eq_true, decide_eq_true_eq, beq_iff_eq,
    Option.ite_none_right_eq_some, Option.some.injEq, and_assoc]
  rw [@eq_comm _ d]

/-- The images of a shift are not among the members of another one: they lie beside it, or have the other
parity. -/
def Shift.avoids (s r : Shift) : Bool :=
  -- All pairs of rows are looked at, so the two tests that settle nearly all of them come first.
  Nat.blt (s.image + (s.last - s.first)) r.first || (Nat.blt r.last s.image ||
    ((s.step == 2 || s.first == s.last) && (r.step == 2 || r.first == r.last) && (s.image + r.first) % 2 == 1))

theorem Shift.image?_eq_none_of_avoids {s r : Shift} (h : s.avoids r = true) {c d : Nat}
    (hd : s.image? c = some d) : r.image? d = none := by
  obtain ⟨hfirst, hlast, hstep, rfl⟩ := image?_eq_some_iff.1 hd
  rw [Option.eq_none_iff_forall_ne_some]
  intro e he
  obtain ⟨hfirst', hlast', hstep', _⟩ := image?_eq_some_iff.1 he
  simp only [avoids, Bool.or_eq_true, Bool.and_eq_true, beq_iff_eq, Nat.blt_eq] at h
  rcases h with h | h | ⟨⟨hs, hr⟩, hparity⟩
  · omega
  · omega
  · have heven : (c - s.first) % 2 = 0 := by
      rcases hs with hs | hs
      · rwa [hs] at hstep
      · have hzero : c - s.first = 0 := by omega
        rw [hzero]
    have heven' : (s.image + (c - s.first) - r.first) % 2 = 0 := by
      rcases hr with hr | hr
      · rwa [hr] at hstep'
      · have hzero : s.image + (c - s.first) - r.first = 0 := by omega
        rw [hzero]
    omega

/-- Whether a code point is in lower case already. -/
def isSmall (c : CodePoint) : Bool := lowerLetter c == [c]

theorem isSmall_iff {c : CodePoint} : isSmall c = true ↔ lowerLetter c = [c] := by
  unfold isSmall
  rw [beq_iff_eq]

/-- The dotted capital, which has a small form outside the table, as a run of its own. -/
def dottedShift : Shift := ⟨0x130, 0x130, 1, 0x69⟩

/-- A code point that no row of the table moves is small. -/
theorem isSmall_of_unmoved {d : CodePoint} (h : ∀ r ∈ dottedShift :: lowerShifts, r.image? d = none) :
    isSmall d = true := by
  have hdot : d ≠ 0x130 := by
    rintro rfl
    have himage : dottedShift.image? 0x130 = none := h dottedShift List.mem_cons_self
    revert himage
    decide
  have hnone : shifted? lowerShifts d = none :=
    List.findSome?_eq_none_iff.2 fun r hr => h r (List.mem_cons_of_mem _ hr)
  rw [isSmall_iff, lowerLetter, if_neg hdot, hnone, Option.getD_none]

/-- **Lower case is reached at once**, letter by letter. -/
theorem isSmall_lowerLetter {c d : CodePoint} (h : d ∈ lowerLetter c) : isSmall d = true := by
  unfold lowerLetter at h
  split at h
  · simp only [List.mem_cons, List.not_mem_nil, or_false] at h
    rcases h with rfl | rfl <;> decide
  · next hc =>
      rw [List.mem_singleton] at h
      cases hshift : shifted? lowerShifts c with
      | none =>
          rw [hshift, Option.getD_none] at h
          subst h
          rw [isSmall_iff, lowerLetter, if_neg hc, hshift, Option.getD_none]
      | some e =>
          rw [hshift, Option.getD_some] at h
          subst h
          obtain ⟨s, hs, himage⟩ := List.exists_of_findSome?_eq_some hshift
          have havoids : (lowerShifts.all fun s => (dottedShift :: lowerShifts).all s.avoids) = true := by
            decide +kernel
          have hrow := List.all_eq_true.1 (List.all_eq_true.1 havoids s hs)
          exact isSmall_of_unmoved fun r hr => Shift.image?_eq_none_of_avoids (hrow r hr) himage

theorem isSmall_lowerFrom (done t : Text) : ∀ d ∈ lowerFrom done t, isSmall d = true := by
  induction t generalizing done with
  | nil => simp [lowerFrom]
  | cons c t ih =>
      intro d hd
      rw [lowerFrom, List.mem_append] at hd
      rcases hd with hd | hd
      · split at hd
        · rw [List.mem_singleton] at hd
          subst hd
          split <;> decide
        · exact isSmall_lowerLetter hd
      · exact ih (c :: done) d hd

/-- **A text in lower case is small.** -/
theorem isSmall_lower (t : Text) : ∀ d ∈ lower t, isSmall d = true := isSmall_lowerFrom [] t

/-- A small text is its own lower case. -/
theorem lowerFrom_eq_self {t : Text} (h : ∀ c ∈ t, isSmall c = true) (done : Text) : lowerFrom done t = t := by
  induction t generalizing done with
  | nil => rfl
  | cons c t ih =>
      have hc : lowerLetter c = [c] := isSmall_iff.1 (h c (by simp))
      have hsigma : c ≠ 0x3A3 := by
        rintro rfl
        revert hc
        decide
      rw [lowerFrom, if_neg hsigma, hc, ih fun d hd => h d (List.mem_cons_of_mem c hd)]
      rfl

theorem lower_eq_self {t : Text} (h : ∀ c ∈ t, isSmall c = true) : lower t = t := lowerFrom_eq_self h []

end Text

namespace Naming

open Text (isSmall)

/-! ## Capitals -/

/-- Whether a letter has a capital of its own: one code point, whose small form is the letter again. -/
def hasCapital (c : CodePoint) : Bool :=
  match Text.upperLetter c with
  | [d] => d != c && Text.lowerLetter d == [c]
  | _ => false

/-- Whether a code point is its own capital form. -/
def isCaseless (c : CodePoint) : Bool := Text.upperLetter c == [c]

theorem hasCapital_iff {c : CodePoint} :
    hasCapital c = true ↔ ∃ d, Text.upperLetter c = [d] ∧ d ≠ c ∧ Text.lowerLetter d = [c] := by
  unfold hasCapital
  split
  · next d hd => simp [hd]
  · next hne =>
      constructor
      · intro h
        cases h
      · rintro ⟨d, hd, _⟩
        exact absurd hd (hne d)

/-- A capital is not small. -/
theorem isSmall_capital {c d : CodePoint} (hne : d ≠ c) (hd : Text.lowerLetter d = [c]) : isSmall d = false := by
  unfold isSmall
  rw [hd]
  simpa using fun h : c = d => hne h.symm

/-- A word in lower case: not empty and small. -/
def IsSmallWord (w : Text) : Prop := w ≠ [] ∧ ∀ c ∈ w, isSmall c = true

theorem isSmallWord_of_mem {t w : Text} (h : w ∈ smallWords t) : IsSmallWord w := by
  refine ⟨(smallWords_spec h).1, ?_⟩
  obtain ⟨v, _, rfl⟩ := List.mem_map.1 h
  exact Text.isSmall_lower v

theorem IsSmallWord.append {v w : Text} (hv : IsSmallWord v) (hw : IsSmallWord w) : IsSmallWord (v ++ w) := by
  refine ⟨by simp [hv.1], ?_⟩
  intro c hc
  rcases List.mem_append.1 hc with hc | hc
  · exact hv.2 c hc
  · exact hw.2 c hc

/-- Of a small word only the first letter is changed by a capital in front. -/
theorem capitalize_cons {c : CodePoint} {t : Text} (h : IsSmallWord (c :: t)) :
    capitalize (c :: t) = Text.upperLetter c ++ t := by
  rw [capitalize, Text.lower_eq_self fun d hd => h.2 d (List.mem_cons_of_mem c hd)]

/-- What stands behind a small word stays when the word gets its capital. -/
theorem capitalize_append {v w : Text} (hv : IsSmallWord v) (hw : IsSmallWord w) :
    capitalize (v ++ w) = capitalize v ++ w := by
  cases v with
  | nil => exact absurd rfl hv.1
  | cons c t =>
      have happend : IsSmallWord (c :: (t ++ w)) := hv.append hw
      rw [List.cons_append, capitalize_cons happend, capitalize_cons hv, List.append_assoc]

/-- Whether a word is told by a capital. -/
def isTold (w : Text) : Bool := w.head?.any hasCapital

/-- Whether it can be seen of a word that it is told by a capital, or is not. -/
def isClearWord (w : Text) : Bool := w.head?.any fun c => hasCapital c || isCaseless c

/-- Whether each word of a key behind the first begins with a letter that has a capital of its own, or with
a code point that has none at all. -/
def isClear (key : Text) : Bool := (smallWords key).tail.all isClearWord

theorem capitalize_of_not_isTold {w : Text} (h : IsSmallWord w) (hclear : isClearWord w = true)
    (htold : isTold w = false) : capitalize w = w := by
  cases w with
  | nil => exact absurd rfl h.1
  | cons c t =>
      have hc : hasCapital c = false := by simpa [isTold] using htold
      have hcase : Text.upperLetter c = [c] := by simpa [isClearWord, hc, isCaseless] using hclear
      rw [capitalize_cons h, hcase]
      rfl

/-! ## Words as they are seen -/

/-- A word in front of others: the next one runs on from it unless it is told by a capital. -/
def runOn (w : Text) : List Text → List Text
  | [] => [w]
  | v :: vs => if isTold v then w :: v :: vs else (w ++ v) :: vs

/-- The words that are seen in a name in camel case. -/
def seenWords (ws : List Text) : List Text := ws.foldr runOn []

/-- Words with a capital each. -/
def withCapitals (ws : List Text) : Text := (ws.map capitalize).flatten

theorem withCapitals_cons (w : Text) (ws : List Text) : withCapitals (w :: ws) = capitalize w ++ withCapitals ws := rfl

theorem isClearWord_append {v w : Text} (hv : v ≠ []) : isClearWord (v ++ w) = isClearWord v := by
  cases v with
  | nil => exact absurd rfl hv
  | cons c t => rfl

/-- What is seen are words again. The first one begins as the first word does, and all others are told. -/
theorem seenWords_cons {w : Text} {ws : List Text} (hw : IsSmallWord w) (hws : ∀ v ∈ ws, IsSmallWord v) :
    ∃ more rest, seenWords (w :: ws) = (w ++ more) :: rest ∧ IsSmallWord (w ++ more) ∧
      ∀ v ∈ rest, IsSmallWord v ∧ isTold v = true := by
  induction ws generalizing w with
  | nil => exact ⟨[], [], by rw [List.append_nil]; rfl, by simpa using hw, by simp⟩
  | cons u ws ih =>
      have hu : IsSmallWord u := hws u (by simp)
      obtain ⟨more, rest, hseen, hsmall, hrest⟩ := ih hu fun v hv => hws v (List.mem_cons_of_mem u hv)
      have hstep : seenWords (w :: u :: ws) = runOn w ((u ++ more) :: rest) := congrArg (runOn w) hseen
      by_cases htold : isTold (u ++ more) = true
      · refine ⟨[], (u ++ more) :: rest, ?_, by simpa using hw, ?_⟩
        · rw [hstep, runOn, if_pos htold, List.append_nil]
        · intro v hv
          rcases List.mem_cons.1 hv with rfl | hv
          · exact ⟨hsmall, htold⟩
          · exact hrest v hv
      · refine ⟨u ++ more, rest, ?_, hw.append hsmall, hrest⟩
        rw [hstep, runOn, if_neg htold]

/-- A word in front of others is seen with the same capitals, its own apart. -/
theorem withCapitals_seenWords_cons {w : Text} {ws : List Text} (hw : IsSmallWord w)
    (hws : ∀ v ∈ ws, IsSmallWord v ∧ isClearWord v = true) :
    ∃ first rest, seenWords (w :: ws) = first :: rest ∧
      first ++ withCapitals rest = w ++ withCapitals ws ∧
      capitalize first ++ withCapitals rest = capitalize w ++ withCapitals ws := by
  induction ws generalizing w with
  | nil => exact ⟨w, [], rfl, rfl, rfl⟩
  | cons u ws ih =>
      obtain ⟨hu, hclear⟩ := hws u (by simp)
      have hrest := fun v hv => hws v (List.mem_cons_of_mem u hv)
      obtain ⟨first, rest, hseen, hplain, hcapital⟩ := ih hu hrest
      obtain ⟨more, others, hsame, hsmall, _⟩ := seenWords_cons hu fun v hv => (hrest v hv).1
      rw [hseen] at hsame
      cases hsame
      have hstep : seenWords (w :: u :: ws) = runOn w ((u ++ more) :: rest) := congrArg (runOn w) hseen
      have hall : withCapitals (u :: ws) = capitalize (u ++ more) ++ withCapitals rest := hcapital.symm
      by_cases htold : isTold (u ++ more) = true
      · refine ⟨w, (u ++ more) :: rest, ?_, ?_, ?_⟩
        · rw [hstep, runOn, if_pos htold]
        · rw [hall]
          rfl
        · rw [hall]
          rfl
      · have hfirst : capitalize (u ++ more) = u ++ more := by
          apply capitalize_of_not_isTold hsmall
          · rw [isClearWord_append hu.1]
            exact hclear
          · simpa using htold
        refine ⟨w ++ (u ++ more), rest, ?_, ?_, ?_⟩
        · rw [hstep, runOn, if_neg htold]
        · rw [hall, hfirst, List.append_assoc]
        · rw [hall, hfirst, capitalize_append hw hsmall, List.append_assoc]

/-! ## Reading a name back -/

/-- A text that is empty or begins with a code point that is not small. -/
def EndsSmall (t : Text) : Prop := ∀ c ∈ t.head?, isSmall c = false

/-- Small code points in front of others are told from them. -/
theorem append_inj_of_small {s t x y : Text} (hs : ∀ c ∈ s, isSmall c = true) (ht : ∀ c ∈ t, isSmall c = true)
    (hx : EndsSmall x) (hy : EndsSmall y) (h : s ++ x = t ++ y) : s = t ∧ x = y := by
  have htake : ∀ {u z : Text}, (∀ c ∈ u, isSmall c = true) → EndsSmall z → (u ++ z).takeWhile isSmall = u := by
    intro u z hu hz
    rw [List.takeWhile_append_of_pos hu]
    cases z with
    | nil => rw [List.takeWhile_nil, List.append_nil]
    | cons c z =>
        have hc : ¬ isSmall c = true := by simp [hz c rfl]
        rw [List.takeWhile_cons_of_neg hc, List.append_nil]
  have hst : s = t := by
    rw [← htake hs hx, ← htake ht hy, h]
  subst hst
  exact ⟨rfl, List.append_cancel_left h⟩

/-- A word that is told becomes its capital and its small rest. -/
theorem capitalize_of_isTold {w : Text} (hw : IsSmallWord w) (htold : isTold w = true) :
    ∃ c d t, w = c :: t ∧ capitalize w = d :: t ∧ Text.lowerLetter d = [c] ∧ isSmall d = false := by
  cases w with
  | nil => exact absurd rfl hw.1
  | cons c t =>
      obtain ⟨d, hd, hne, hlower⟩ := hasCapital_iff.1 (show hasCapital c = true by simpa [isTold] using htold)
      refine ⟨c, d, t, rfl, ?_, hlower, isSmall_capital hne hlower⟩
      rw [capitalize_cons hw, hd]
      rfl

theorem endsSmall_withCapitals {ws : List Text} (h : ∀ w ∈ ws, IsSmallWord w ∧ isTold w = true) :
    EndsSmall (withCapitals ws) := by
  cases ws with
  | nil => simp [EndsSmall, withCapitals]
  | cons w ws =>
      obtain ⟨hw, htold⟩ := h w (by simp)
      obtain ⟨_, d, t, _, hcapital, _, hsmall⟩ := capitalize_of_isTold hw htold
      intro e he
      have hed : d = e := by simpa [withCapitals, hcapital] using he
      exact hed ▸ hsmall

/-- **Words that are told by capitals are read back from them.** -/
theorem withCapitals_injective {vs ws : List Text} (hv : ∀ w ∈ vs, IsSmallWord w ∧ isTold w = true)
    (hw : ∀ w ∈ ws, IsSmallWord w ∧ isTold w = true) (h : withCapitals vs = withCapitals ws) : vs = ws := by
  induction vs generalizing ws with
  | nil =>
      cases ws with
      | nil => rfl
      | cons w ws =>
          obtain ⟨_, d, t, _, hcapital, _⟩ := capitalize_of_isTold (hw w (by simp)).1 (hw w (by simp)).2
          rw [withCapitals_cons, hcapital] at h
          cases h
  | cons v vs ih =>
      obtain ⟨c, d, s, rfl, hcapital, hlower, _⟩ := capitalize_of_isTold (hv v (by simp)).1 (hv v (by simp)).2
      rw [withCapitals_cons, hcapital] at h
      cases ws with
      | nil => cases h
      | cons w ws =>
          obtain ⟨c', d', t, rfl, hcapital', hlower', _⟩ := capitalize_of_isTold (hw w (by simp)).1 (hw w (by simp)).2
          rw [withCapitals_cons, hcapital'] at h
          obtain ⟨rfl, hrest⟩ := List.cons.inj h
          have hvs := fun w hmem => hv w (List.mem_cons_of_mem _ hmem)
          have hws := fun v hmem => hw v (List.mem_cons_of_mem _ hmem)
          have hcc : c = c' := by simpa [hlower] using hlower'
          obtain ⟨rfl, hmore⟩ := append_inj_of_small
            (fun e he => (hv (c :: s) (by simp)).1.2 e (List.mem_cons_of_mem c he))
            (fun e he => (hw (c' :: t) (by simp)).1.2 e (List.mem_cons_of_mem c' he))
            (endsSmall_withCapitals hvs) (endsSmall_withCapitals hws) hrest
          rw [hcc, ih hvs hws hmore]

/-- A name in camel case is the first word that is seen, and the others with their capitals. -/
theorem camelCase_of_seenWords {key first : Text} {rest : List Text} (hclear : isClear key = true)
    (h : seenWords (smallWords key) = first :: rest) : camelCase key = first ++ withCapitals rest := by
  have hsmall : ∀ w ∈ smallWords key, IsSmallWord w := fun w hw => isSmallWord_of_mem hw
  unfold isClear at hclear
  unfold camelCase
  generalize smallWords key = words at hclear h hsmall
  cases words with
  | nil => cases h
  | cons w ws =>
      have hws : ∀ v ∈ ws, IsSmallWord v ∧ isClearWord v = true := by
        intro v hv
        exact ⟨hsmall v (List.mem_cons_of_mem w hv), List.all_eq_true.1 hclear v hv⟩
      obtain ⟨first', rest', hseen, hplain, _⟩ := withCapitals_seenWords_cons (hsmall w (by simp)) hws
      rw [hseen] at h
      cases h
      exact hplain.symm

/-- A name in camel case is empty or a small first word with told words behind it, those that are seen. -/
theorem camelCase_cases {key : Text} (hclear : isClear key = true) :
    seenWords (smallWords key) = [] ∧ camelCase key = [] ∨
      ∃ first rest, seenWords (smallWords key) = first :: rest ∧ camelCase key = first ++ withCapitals rest ∧
        IsSmallWord first ∧ ∀ v ∈ rest, IsSmallWord v ∧ isTold v = true := by
  have hsmall : ∀ w ∈ smallWords key, IsSmallWord w := fun w hw => isSmallWord_of_mem hw
  have hname := @camelCase_of_seenWords key
  cases hwords : smallWords key with
  | nil =>
      refine Or.inl ⟨rfl, ?_⟩
      unfold camelCase
      rw [hwords]
  | cons w ws =>
      rw [hwords] at hsmall hname
      obtain ⟨more, rest, hcons, hfirst, hrest⟩ :=
        seenWords_cons (hsmall w (by simp)) fun v hv => hsmall v (List.mem_cons_of_mem w hv)
      exact Or.inr ⟨w ++ more, rest, hcons, hname hclear hcons, hfirst, hrest⟩

/-- **What is seen in a name in camel case** are its words, where those without a capital run on from the ones
in front of them. Two keys have one name exactly when the same is seen of both. -/
theorem camelCase_eq_iff {s t : Text} (hs : isClear s = true) (ht : isClear t = true) :
    camelCase s = camelCase t ↔ seenWords (smallWords s) = seenWords (smallWords t) := by
  rcases camelCase_cases hs with ⟨hsseen, hscamel⟩ | ⟨p, ps, hsseen, hscamel, hp, hps⟩
  · rcases camelCase_cases ht with ⟨htseen, htcamel⟩ | ⟨q, qs, htseen, htcamel, hq, _⟩
    · rw [hsseen, htseen, hscamel, htcamel]
      exact ⟨fun _ => rfl, fun _ => rfl⟩
    · rw [hsseen, htseen, hscamel, htcamel]
      simp [hq.1]
  · rcases camelCase_cases ht with ⟨htseen, htcamel⟩ | ⟨q, qs, htseen, htcamel, hq, hqs⟩
    · rw [hsseen, htseen, hscamel, htcamel]
      simp [hp.1]
    · rw [hsseen, htseen, hscamel, htcamel, List.cons.injEq]
      constructor
      · intro h
        obtain ⟨rfl, hrest⟩ :=
          append_inj_of_small hp.2 hq.2 (endsSmall_withCapitals hps) (endsSmall_withCapitals hqs) h
        exact ⟨rfl, withCapitals_injective hps hqs hrest⟩
      · rintro ⟨rfl, rfl⟩
        rfl

/-- Where each word behind the first is told by a capital, the words themselves are seen. -/
theorem seenWords_eq_self {ws : List Text} (h : ∀ w ∈ ws.tail, isTold w = true) : seenWords ws = ws := by
  induction ws with
  | nil => rfl
  | cons w ws ih =>
      cases ws with
      | nil => rfl
      | cons v vs =>
          have hrest : seenWords (v :: vs) = v :: vs := ih fun u hu => h u (List.mem_cons_of_mem v hu)
          show runOn w (seenWords (v :: vs)) = _
          rw [hrest, runOn, if_pos (h v (by simp))]

/-- A key whose words behind the first are all told by capitals is clear. -/
theorem isClear_of_isTold {key : Text} (h : ∀ w ∈ (smallWords key).tail, isTold w = true) : isClear key = true := by
  unfold isClear
  rw [List.all_eq_true]
  intro w hw
  have htold := h w hw
  cases w with
  | nil => cases htold
  | cons c t =>
      have hc : hasCapital c = true := by simpa [isTold] using htold
      simp [isClearWord, hc]

/-! ## Keys of ASCII code points -/

/-- A small letter of ASCII has a capital of its own, and anything else in ASCII is its own capital form. -/
theorem hasCapital_or_isCaseless {c : Nat} (hc : c < 128) : (hasCapital c || isCaseless c) = true := by
  rw [Bool.or_eq_true]
  by_cases h : 97 ≤ c ∧ c ≤ 122
  · have hcapital : 65 ≤ c - 32 ∧ c - 32 ≤ 90 := by omega
    have hlow : c - 32 < 128 := by omega
    have hne : c - 32 ≠ c := by omega
    have hback : c - 32 + 32 = c := by omega
    refine .inl (hasCapital_iff.2 ⟨c - 32, ?_, hne, ?_⟩)
    · simp [upperLetter_of_ascii hc, capitalPoint, h]
    · rw [lowerLetter_of_ascii hlow, smallPoint, if_pos (by simpa using hcapital), hback]
  · refine .inr ?_
    simp [isCaseless, upperLetter_of_ascii hc, capitalPoint, h]

/-- **Keys of ASCII code points are clear**: of their words only the numbers have no capital. -/
theorem isClear_of_ascii {key : Text} (h : ∀ c ∈ key, c < 128) : isClear key = true := by
  unfold isClear
  rw [List.all_eq_true]
  intro w hw
  have hmem : w ∈ smallWords key := List.mem_of_mem_tail hw
  obtain ⟨hne, hname⟩ := smallWords_spec hmem
  obtain ⟨v, hv, rfl⟩ := List.mem_map.1 hmem
  have hword : ∀ c ∈ v, c < 128 := fun c hc => isAscii_plain h c (mem_plain_of_mem_words hv hc)
  have hascii := isAscii_lower hword
  generalize Text.lower v = u at hne hname hascii
  cases u with
  | nil => exact absurd rfl hne
  | cons c t => exact hasCapital_or_isCaseless (hascii c (by simp))

end Naming
end StepForge
