import StepForge.Naming.Case
import StepForge.Proofs.Text.Split

/-!
# `StepForge.Proofs.Naming.Points` — what the code points of names are

Whatever a key holds, its words hold letters and digits only, and changing their case brings in no
other ASCII code point. So of the ASCII code points a name has letters and digits alone, with the
separators that the three spellings put between words: no quote, bracket, slash or line feed.

The tables of case and class are looked at once, run by run; nothing here depends on single rows.
-/

namespace StepForge

namespace Text

/-! ## Tables -/

theorem exists_run_of_inRuns {runs : List Run} {c : CodePoint} (h : inRuns runs c = true) :
    ∃ r ∈ runs, r.first ≤ c ∧ c ≤ r.last := by
  obtain ⟨r, hr, hc⟩ := List.any_eq_true.1 h
  simp only [Run.contains, Bool.and_eq_true, decide_eq_true_eq] at hc
  exact ⟨r, hr, hc.1⟩

theorem exists_shift_of_shifted? {shifts : List Shift} {c d : Nat}
    (h : shifted? shifts c = some d) :
    ∃ s ∈ shifts, s.first ≤ c ∧ c ≤ s.last ∧ d = s.image + (c - s.first) := by
  obtain ⟨s, hs, hd⟩ := List.exists_of_findSome?_eq_some h
  simp only [Shift.image?, Run.contains, Bool.and_eq_true, decide_eq_true_eq, Option.ite_none_right_eq_some,
    Option.some.injEq] at hd
  exact ⟨s, hs, hd.1.1.1, hd.1.1.2, hd.2.symm⟩

theorem mem_of_sequence? {table : List (Nat × Text)} {c : CodePoint} {t : Text}
    (h : sequence? table c = some t) : (c, t) ∈ table := by
  obtain ⟨row, hrow, rfl⟩ := Option.map_eq_some_iff.1 h
  have hc : row.1 = c := by simpa using List.find?_some hrow
  rw [← hc]
  exact List.mem_of_find?_eq_some hrow

end Text

namespace Naming

/-! ## Code points of names -/

/-- A code point that is no ASCII punctuation, blank or control: of the ASCII ones, the letters and
digits. -/
def isNamePoint (c : Nat) : Bool :=
  128 ≤ c || (48 ≤ c && c ≤ 57) || (65 ≤ c && c ≤ 90) || (97 ≤ c && c ≤ 122)

/-- Whether all code points from `first` to `last` are of that kind. -/
def isNameRange (first last : Nat) : Bool :=
  128 ≤ first || (48 ≤ first && last ≤ 57) || (65 ≤ first && last ≤ 90) || (97 ≤ first && last ≤ 122)

theorem isNamePoint_of_isNameRange {a b c : Nat} (h : isNameRange a b = true) (ha : a ≤ c)
    (hb : c ≤ b) : isNamePoint c = true := by
  simp only [isNameRange, isNamePoint, Bool.or_eq_true, Bool.and_eq_true, decide_eq_true_eq] at h ⊢
  omega

/-! The tables are lists of runs. What `test` says of a whole run holds of each of its code points, so a property
`P` of all letters and digits is looked at once a run. -/

section Ranges

variable {P : CodePoint → Prop} {test : Nat → Nat → Bool}

theorem of_inRuns (htest : ∀ a b c, test a b = true → a ≤ c → c ≤ b → P c) {runs : List Text.Run} {c : CodePoint}
    (hruns : ∀ r ∈ runs, test r.first r.last = true) (h : Text.inRuns runs c = true) : P c := by
  obtain ⟨r, hr, ha, hb⟩ := Text.exists_run_of_inRuns h
  exact htest r.first r.last c (hruns r hr) ha hb

theorem of_shifted? (htest : ∀ a b c, test a b = true → a ≤ c → c ≤ b → P c) {shifts : List Text.Shift}
    {c d : Nat} (hshifts : ∀ s ∈ shifts, test s.image (s.image + (s.last - s.first)) = true)
    (h : Text.shifted? shifts c = some d) : P d := by
  obtain ⟨s, hs, ha, hb, rfl⟩ := Text.exists_shift_of_shifted? h
  exact htest _ _ _ (hshifts s hs) (by omega) (by omega)

/-- A property of all capitals, letters and digits is one of all that takes part in words. -/
theorem of_class (htest : ∀ a b c, test a b = true → a ≤ c → c ≤ b → P c)
    (hruns : ∀ r ∈ Text.capitalRuns ++ Text.letterRuns ++ Text.digitRuns, test r.first r.last = true)
    {c : CodePoint} (h : CharClass.of c ≠ .separator) : P c := by
  unfold CharClass.of at h
  split at h
  · next hc => exact of_inRuns htest (fun r hr => hruns r (by simp [hr])) hc
  · split at h
    · next hc => exact of_inRuns htest (fun r hr => hruns r (by simp [hr])) hc
    · split at h
      · next hc => exact of_inRuns htest (fun r hr => hruns r (by simp [hr])) hc
      · exact absurd rfl h

/-- A property of all images of the table of small letters, and of the small letter that has a mark behind it,
is kept by lower case. -/
theorem of_mem_lowerLetter (htest : ∀ a b c, test a b = true → a ≤ c → c ≤ b → P c)
    (hshifts : ∀ s ∈ Text.lowerShifts, test s.image (s.image + (s.last - s.first)) = true)
    (hdotted : P 0x69 ∧ P 0x307) {c : CodePoint} (hc : P c) : ∀ d ∈ Text.lowerLetter c, P d := by
  intro d hd
  unfold Text.lowerLetter at hd
  split at hd
  · simp only [List.mem_cons, List.not_mem_nil, or_false] at hd
    rcases hd with rfl | rfl
    · exact hdotted.1
    · exact hdotted.2
  · rw [List.mem_singleton] at hd
    cases hs : Text.shifted? Text.lowerShifts c with
    | none =>
        rw [hs] at hd
        subst hd
        exact hc
    | some e =>
        rw [hs] at hd
        subst hd
        exact of_shifted? htest hshifts hs

/-- What every small letter keeps is kept by lower case of texts, if both forms of the small sigma have it. -/
theorem of_mem_lowerFrom (hletter : ∀ c, P c → ∀ d ∈ Text.lowerLetter c, P d) (hsigma : P 0x3C2 ∧ P 0x3C3)
    {t : Text} (ht : ∀ c ∈ t, P c) (done : Text) : ∀ d ∈ Text.lowerFrom done t, P d := by
  induction t generalizing done with
  | nil => simp [Text.lowerFrom]
  | cons c t ih =>
      intro d hd
      rw [Text.lowerFrom, List.mem_append] at hd
      rcases hd with hd | hd
      · split at hd
        · rw [List.mem_singleton] at hd
          subst hd
          split
          · exact hsigma.1
          · exact hsigma.2
        · exact hletter c (ht c (by simp)) d hd
      · exact ih (fun e he => ht e (List.mem_cons_of_mem c he)) (c :: done) d hd

end Ranges

/-- What the tables hold: the runs of letters and digits, and the images of letters in either case. -/
theorem isNameRange_tables :
    (∀ r ∈ Text.capitalRuns ++ Text.letterRuns ++ Text.digitRuns, isNameRange r.first r.last = true) ∧
      (∀ s ∈ Text.lowerShifts, isNameRange s.image (s.image + (s.last - s.first)) = true) ∧
      (∀ s ∈ Text.upperShifts, isNameRange s.image (s.image + (s.last - s.first)) = true) ∧
      ∀ row ∈ Text.upperSequences, ∀ d ∈ row.2, isNamePoint d = true := by
  decide +kernel

/-- **What takes part in a word is a name point.** -/
theorem isNamePoint_of_class {c : CodePoint} (h : CharClass.of c ≠ .separator) :
    isNamePoint c = true :=
  of_class (fun _ _ _ => isNamePoint_of_isNameRange) isNameRange_tables.1 h

/-! ## Letter case -/

theorem isNamePoint_lowerLetter {c : CodePoint} (hc : isNamePoint c = true) :
    ∀ d ∈ Text.lowerLetter c, isNamePoint d = true :=
  of_mem_lowerLetter (P := (isNamePoint · = true)) (fun _ _ _ => isNamePoint_of_isNameRange) isNameRange_tables.2.1
    (by decide) hc

theorem isNamePoint_upperLetter {c : CodePoint} (hc : isNamePoint c = true) :
    ∀ d ∈ Text.upperLetter c, isNamePoint d = true := by
  obtain ⟨_, _, hshifts, hrows⟩ := isNameRange_tables
  intro d hd
  unfold Text.upperLetter at hd
  cases hs : Text.shifted? Text.upperShifts c with
  | some e =>
      simp only [hs, List.mem_singleton] at hd
      subst hd
      exact of_shifted? (P := (isNamePoint · = true)) (fun _ _ _ => isNamePoint_of_isNameRange) hshifts hs
  | none =>
      simp only [hs] at hd
      cases hq : Text.sequence? Text.upperSequences c with
      | none =>
          rw [hq, Option.getD_none, List.mem_singleton] at hd
          subst hd
          exact hc
      | some t =>
          rw [hq, Option.getD_some] at hd
          exact hrows _ (Text.mem_of_sequence? hq) d hd

/-- Lower case keeps name points. -/
theorem isNamePoint_lower {t : Text} (ht : ∀ c ∈ t, isNamePoint c = true) :
    ∀ d ∈ Text.lower t, isNamePoint d = true :=
  of_mem_lowerFrom (P := (isNamePoint · = true)) (fun _ hc => isNamePoint_lowerLetter hc) (by decide) ht []

theorem lowerLetter_ne_nil (c : CodePoint) : Text.lowerLetter c ≠ [] := by
  unfold Text.lowerLetter
  split <;> simp

theorem lower_ne_nil {t : Text} (h : t ≠ []) : Text.lower t ≠ [] := by
  cases t with
  | nil => exact absurd rfl h
  | cons c t =>
      unfold Text.lower
      rw [Text.lowerFrom]
      split
      · simp
      · simp [lowerLetter_ne_nil]

/-! ## Words -/

/-- What every run of `classRuns` is: some code points, all of the run's class. -/
def IsRun (r : CharClass × Text) : Prop := r.2 ≠ [] ∧ ∀ c ∈ r.2, CharClass.of c = r.1

/-- What every word is: some code points, none of them a separator. -/
def IsWord (w : Text) : Prop := w ≠ [] ∧ ∀ c ∈ w, CharClass.of c ≠ .separator

theorem isRun_consRun {runs : List (CharClass × Text)} (c : CodePoint) (h : ∀ r ∈ runs, IsRun r) :
    ∀ r ∈ consRun c runs, IsRun r := by
  intro r hr
  cases runs with
  | nil =>
      rw [consRun, List.mem_singleton] at hr
      subst hr
      simp [IsRun]
  | cons head runs =>
      obtain ⟨k, run⟩ := head
      have hhead : IsRun (k, run) := h (k, run) (by simp)
      by_cases hk : CharClass.of c = k
      · rw [consRun, if_pos hk, List.mem_cons] at hr
        rcases hr with rfl | hr
        · refine ⟨by simp, ?_⟩
          intro d hd
          rcases List.mem_cons.1 hd with rfl | hd
          · exact hk
          · exact hhead.2 d hd
        · exact h r (List.mem_cons_of_mem _ hr)
      · rw [consRun, if_neg hk, List.mem_cons] at hr
        rcases hr with rfl | hr
        · simp [IsRun]
        · exact h r hr

theorem isRun_of_mem_classRuns (t : Text) : ∀ r ∈ classRuns t, IsRun r := by
  induction t with
  | nil => simp [classRuns]
  | cons c t ih => exact isRun_consRun c ih

theorem isWord_of_isRun {k : CharClass} {run : Text} (h : IsRun (k, run)) (hk : k ≠ .separator) :
    IsWord run := by
  refine ⟨h.1, ?_⟩
  intro c hc
  rw [h.2 c hc]
  exact hk

/-- The last capital of a word with letters behind it is a word. -/
theorem IsWord.last_append {u w : Text} (hu : IsWord u) (hw : IsWord w) :
    IsWord (u.getLast?.toList ++ w) := by
  refine ⟨by simp [hw.1], ?_⟩
  intro c hc
  rcases List.mem_append.1 hc with hc | hc
  · exact hu.2 c (List.mem_of_getLast? (by simpa using hc))
  · exact hw.2 c hc

/-- The words of runs are words. -/
theorem isWord_of_mem_wordsOfRuns {runs : List (CharClass × Text)} (h : ∀ r ∈ runs, IsRun r) :
    ∀ w ∈ wordsOfRuns runs, IsWord w := by
  fun_induction wordsOfRuns runs with
  | case1 => simp
  | case2 run runs ih => exact ih fun r hr => h r (List.mem_cons_of_mem _ hr)
  | case3 capitals letters runs front word hfront ih =>
      have hcap : IsWord capitals := isWord_of_isRun (h (.capital, capitals) (by simp)) (by simp)
      have hlet : IsWord letters := isWord_of_isRun (h (.letter, letters) (by simp)) (by simp)
      intro w hw
      rcases List.mem_cons.1 hw with rfl | hw
      · exact hcap.last_append hlet
      · exact ih (fun r hr => h r (by simp [hr])) w hw
  | case4 capitals letters runs front word hfront ih =>
      have hcap : IsWord capitals := isWord_of_isRun (h (.capital, capitals) (by simp)) (by simp)
      have hlet : IsWord letters := isWord_of_isRun (h (.letter, letters) (by simp)) (by simp)
      intro w hw
      rcases List.mem_cons.1 hw with rfl | hw
      · exact ⟨by simpa using hfront, fun c hc => hcap.2 c (List.dropLast_subset capitals hc)⟩
      · rcases List.mem_cons.1 hw with rfl | hw
        · exact hcap.last_append hlet
        · exact ih (fun r hr => h r (by simp [hr])) w hw
  | case5 k run runs hsep hcap ih =>
      intro w hw
      rcases List.mem_cons.1 hw with rfl | hw
      · exact isWord_of_isRun (h (k, w) (by simp)) hsep
      · exact ih (fun r hr => h r (List.mem_cons_of_mem _ hr)) w hw

/-- **The words of a text** are not empty and hold no separator. -/
theorem isWord_of_mem_words {t w : Text} (h : w ∈ words t) : IsWord w :=
  isWord_of_mem_wordsOfRuns (isRun_of_mem_classRuns (plain t)) w h

/-- No code point is lost when a text is cut into runs. -/
theorem flatMap_classRuns (t : Text) : (classRuns t).flatMap (·.2) = t := by
  induction t with
  | nil => rfl
  | cons c t ih =>
      have hcons : ∀ runs : List (CharClass × Text), (consRun c runs).flatMap (·.2) = c :: runs.flatMap (·.2) := by
        intro runs
        cases runs with
        | nil => rfl
        | cons r runs =>
            rw [consRun]
            split
            · rfl
            · rfl
      rw [classRuns, hcons, ih]

theorem dropLast_append_getLast? (u : Text) : u.dropLast ++ u.getLast?.toList = u := by
  by_cases hu : u = []
  · rw [hu]
    rfl
  · rw [List.getLast?_eq_some_getLast hu]
    exact List.dropLast_concat_getLast hu

/-- **Only separators are lost** when words are made of runs. -/
theorem flatten_wordsOfRuns (runs : List (CharClass × Text)) :
    (wordsOfRuns runs).flatten = (runs.filter fun r => r.1 ≠ .separator).flatMap (·.2) := by
  fun_induction wordsOfRuns runs with
  | case1 => rfl
  | case2 run runs ih => simpa using ih
  | case3 capitals letters runs front word hfront ih =>
      have hcapitals := dropLast_append_getLast? capitals
      rw [List.isEmpty_iff.1 (show capitals.dropLast.isEmpty = true from hfront), List.nil_append] at hcapitals
      simp [ih, word, hcapitals]
  | case4 capitals letters runs front word hfront ih =>
      have hcapitals := dropLast_append_getLast? capitals
      simp only [List.flatten_cons, ih, front, word]
      rw [← List.append_assoc, ← List.append_assoc, hcapitals]
      simp
  | case5 k run runs hsep hcap ih => simp [ih, show k ≠ .separator from hsep]

/-- What a word holds is in the text without its accents. -/
theorem mem_plain_of_mem_words {t w : Text} {c : CodePoint} (h : w ∈ words t) (hc : c ∈ w) : c ∈ plain t := by
  have hmem : c ∈ (words t).flatten := List.mem_flatten.2 ⟨w, h, hc⟩
  rw [words, flatten_wordsOfRuns] at hmem
  obtain ⟨r, hr, hcr⟩ := List.mem_flatMap.1 hmem
  rw [← flatMap_classRuns (plain t)]
  exact List.mem_flatMap.2 ⟨r, (List.mem_filter.1 hr).1, hcr⟩

/-- A property of all classes of letters and digits that lower case keeps is one of all words of names. -/
theorem of_mem_smallWords {P : CodePoint → Prop} (hclass : ∀ c, CharClass.of c ≠ .separator → P c)
    (hletter : ∀ c, P c → ∀ d ∈ Text.lowerLetter c, P d) (hsigma : P 0x3C2 ∧ P 0x3C3) {t w : Text}
    (h : w ∈ smallWords t) : ∀ c ∈ w, P c := by
  obtain ⟨v, hv, rfl⟩ := List.mem_map.1 h
  exact of_mem_lowerFrom hletter hsigma (fun c hc => hclass c ((isWord_of_mem_words hv).2 c hc)) []

/-- **The words of a name** are not empty and hold name points only. -/
theorem smallWords_spec {t w : Text} (h : w ∈ smallWords t) :
    w ≠ [] ∧ ∀ c ∈ w, isNamePoint c = true := by
  refine ⟨?_, of_mem_smallWords (P := (isNamePoint · = true)) (fun _ => isNamePoint_of_class)
    (fun _ hc => isNamePoint_lowerLetter hc) (by decide) h⟩
  obtain ⟨v, hv, rfl⟩ := List.mem_map.1 h
  exact lower_ne_nil (isWord_of_mem_words hv).1

/-! ## Names -/

theorem isNamePoint_capitalize {t : Text} (h : ∀ c ∈ t, isNamePoint c = true) :
    ∀ c ∈ capitalize t, isNamePoint c = true := by
  cases t with
  | nil => simp [capitalize]
  | cons d t =>
      intro c hc
      rcases List.mem_append.1 hc with hc | hc
      · exact isNamePoint_upperLetter (h d (by simp)) c hc
      · exact isNamePoint_lower (fun e he => h e (List.mem_cons_of_mem d he)) c hc

/-- **A name in camel case** holds name points only. -/
theorem isNamePoint_camelCase (t : Text) : ∀ c ∈ camelCase t, isNamePoint c = true := by
  intro c hc
  unfold camelCase at hc
  split at hc
  · simp at hc
  · next w ws hws =>
      have hspec : ∀ v ∈ w :: ws, ∀ c ∈ v, isNamePoint c = true := by
        intro v hv
        exact (smallWords_spec (t := t) (by rw [hws]; exact hv)).2
      rcases List.mem_append.1 hc with hc | hc
      · exact hspec w (by simp) c hc
      · obtain ⟨u, hu, hcu⟩ := List.mem_flatten.1 hc
        obtain ⟨v, hv, rfl⟩ := List.mem_map.1 hu
        exact isNamePoint_capitalize (hspec v (List.mem_cons_of_mem w hv)) c hcu

/-- A property of all words and of the underscore is one of all names in snake case. -/
theorem of_mem_snakeCase {P : CodePoint → Prop} (hunder : P 95)
    (hwords : ∀ t w, w ∈ smallWords t → ∀ c ∈ w, P c) (t : Text) : ∀ c ∈ snakeCase t, P c := by
  intro c h
  rcases Text.mem_join h with h | ⟨w, hw, hc⟩
  · have heq : c = 95 := by simpa [Text.ofString] using h
    rw [heq]
    exact hunder
  · exact hwords t w hw c hc

/-- **A name in snake case** holds name points and underscores only. -/
theorem mem_snakeCase {t : Text} {c : CodePoint} (h : c ∈ snakeCase t) :
    c = 95 ∨ isNamePoint c = true :=
  of_mem_snakeCase (P := fun c => c = 95 ∨ isNamePoint c = true) (Or.inl rfl)
    (fun _ _ hw c hc => Or.inr ((smallWords_spec hw).2 c hc)) t c h

/-- Words of names can be told apart when they are joined by what stands in no name. -/
theorem join_smallWords_inj (sep : CodePoint) (hsep : isNamePoint sep = false) (s t : Text) :
    Text.join [sep] (smallWords s) = Text.join [sep] (smallWords t) ↔ smallWords s = smallWords t := by
  have hclean : ∀ u : Text, ∀ w ∈ smallWords u, w ≠ [] ∧ sep ∉ w := by
    intro u w hw
    obtain ⟨hne, hpoints⟩ := smallWords_spec hw
    refine ⟨hne, fun hmem => ?_⟩
    rw [hpoints sep hmem] at hsep
    cases hsep
  exact Text.join_injective (hclean s) (hclean t)

/-- **Snake case tells words apart:** two texts have one name only if they have the same words, letter
case aside. -/
theorem snakeCase_eq_iff (s t : Text) : snakeCase s = snakeCase t ↔ smallWords s = smallWords t :=
  join_smallWords_inj '_'.toNat rfl s t

/-- **Kebab case tells words apart** too. -/
theorem kebabCase_eq_iff (s t : Text) : kebabCase s = kebabCase t ↔ smallWords s = smallWords t :=
  join_smallWords_inj '-'.toNat rfl s t

/-- A name in camel case is made of the words alone, letter case aside. -/
theorem camelCase_congr {s t : Text} (h : smallWords s = smallWords t) : camelCase s = camelCase t := by
  rw [camelCase, camelCase, h]

end Naming
end StepForge
