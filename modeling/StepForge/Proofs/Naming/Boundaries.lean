import Mathlib.Data.List.Chain
import StepForge.Proofs.Naming.Identifier
import StepForge.Proofs.Text.Pattern

/-!
# `StepForge.Proofs.Naming.Boundaries` — where words begin and end

The words of a text can be said in three ways. They are what a pattern finds: letters with a capital in front or
without, capitals that leave the last one to letters behind them, or digits. They are the segments that are left
when the text is cut between neighbours of certain classes. And they are made of the runs of one class, which is
how they are computed. All three follow one relation, `Cuts`, with a rule for a separator and one for the first
word; whatever follows the rules is the list of words.

## Contents
- `IsShape`, `IsFirst`, `Cuts` — what a word is, where the first one ends, and the words of a text.
- `cuts_words` — the words of a text.
- `wordPattern`, `Cuts.found_eq` — words as matches of a pattern.
- `isCut`, `goesOn`, `segments`, `Cuts.segments_eq` — words as segments between boundaries.
- `EndsAt`, `endsAt_segments_iff` — at which places a segment ends.
- `words_at_boundaries` — all of this of the words of a text.
-/

namespace StepForge.Naming

open Text (Pattern)

section Classes

variable (cls : CodePoint → CharClass)

/-! ## The rules -/

/-- Whether a code point is of a class. -/
def isOf (k : CharClass) (c : CodePoint) : Bool := cls c == k

/-- The three shapes of words: letters with a capital in front or without, capitals, and digits. -/
inductive IsShape : Text → Prop where
  | letters {front : Option CodePoint} {w : Text} (hfront : ∀ u ∈ front, cls u = .capital) (hne : w ≠ [])
      (hw : ∀ c ∈ w, cls c = .letter) : IsShape (front.toList ++ w)
  | capitals {w : Text} (hne : w ≠ []) (hw : ∀ c ∈ w, cls c = .capital) : IsShape w
  | digits {w : Text} (hne : w ≠ []) (hw : ∀ c ∈ w, cls c = .digit) : IsShape w

/-- The first word of a text, and what stands behind it. Letters and digits go on as long as they can. Capitals
do so too, but the last one in front of a letter belongs to the letter. -/
inductive IsFirst : Text → Text → Prop where
  | letters {front : Option CodePoint} {w r : Text} (hfront : ∀ u ∈ front, cls u = .capital) (hne : w ≠ [])
      (hw : ∀ c ∈ w, cls c = .letter) (hr : r.head?.any (isOf cls .letter) = false) :
      IsFirst (front.toList ++ w) r
  | capitals {w r : Text} (hne : w ≠ []) (hw : ∀ c ∈ w, cls c = .capital)
      (hr : r.head?.any (isOf cls .letter) = false)
      (hlast : ∀ u t, r = u :: t → cls u = .capital → t.head?.any (isOf cls .letter) = true) : IsFirst w r
  | digits {w r : Text} (hne : w ≠ []) (hw : ∀ c ∈ w, cls c = .digit)
      (hr : r.head?.any (isOf cls .digit) = false) : IsFirst w r

/-- The words of a text, one after another. -/
inductive Cuts : Text → List Text → Prop where
  | done : Cuts [] []
  | separator {c : CodePoint} {t : Text} {ws : List Text} (hc : cls c = .separator) (h : Cuts t ws) : Cuts (c :: t) ws
  | word {w r : Text} {ws : List Text} (hw : IsFirst cls w r) (h : Cuts r ws) : Cuts (w ++ r) (w :: ws)

end Classes

section Rules

variable {cls : CodePoint → CharClass} {k : CharClass} {c : CodePoint} {t w r : Text} {ws : List Text}

theorem isOf_iff : isOf cls k c = true ↔ cls c = k := by simp [isOf]

theorem isOf_of_all (h : ∀ c ∈ w, cls c = k) : ∀ c ∈ w, isOf cls k c = true := fun c hc => isOf_iff.2 (h c hc)

/-- A text that begins with a code point of one class does not begin with one of another. -/
theorem head?_any_isOf (h : cls c = k) {j : CharClass} (hj : k ≠ j) : (c :: t).head?.any (isOf cls j) = false := by
  simp [isOf, h, hj]

theorem head?_any_run (hne : w ≠ []) (hw : ∀ c ∈ w, cls c = k) {j : CharClass} (hj : k ≠ j) (r : Text) :
    (w ++ r).head?.any (isOf cls j) = false := by
  obtain ⟨c, u, rfl⟩ := List.exists_cons_of_ne_nil hne
  exact head?_any_isOf (hw c (by simp)) hj

/-- Letters with no capital in front. -/
theorem IsFirst.small (hne : w ≠ []) (hw : ∀ c ∈ w, cls c = .letter) (hr : r.head?.any (isOf cls .letter) = false) :
    IsFirst cls w r := by
  have hfront : ∀ u ∈ (none : Option CodePoint), cls u = .capital := by simp
  have hfirst := IsFirst.letters hfront hne hw hr
  exact hfirst

theorem IsFirst.shape (h : IsFirst cls w r) : IsShape cls w := by
  cases h with
  | letters hfront hne hw _ => exact .letters hfront hne hw
  | capitals hne hw _ _ => exact .capitals hne hw
  | digits hne hw _ => exact .digits hne hw

theorem IsShape.ne_nil (h : IsShape cls w) : w ≠ [] := by
  cases h with
  | letters _ hne _ => simp [hne]
  | capitals hne _ => exact hne
  | digits hne _ => exact hne

/-- **Each word has one of the three shapes.** -/
theorem Cuts.shape (h : Cuts cls t ws) : ∀ w ∈ ws, IsShape cls w := by
  induction h with
  | done => simp
  | separator _ _ ih => exact ih
  | word hw _ ih =>
      intro v hv
      rcases List.mem_cons.1 hv with rfl | hv
      · exact hw.shape
      · exact ih v hv

/-- Separators in front of a text are passed over. -/
theorem Cuts.separators (hw : ∀ c ∈ w, cls c = .separator) (h : Cuts cls t ws) : Cuts cls (w ++ t) ws := by
  induction w with
  | nil => exact h
  | cons c w ih => exact .separator (hw c (by simp)) (ih fun d hd => hw d (List.mem_cons_of_mem c hd))

/-- The first word depends on the classes of what is in the text only. -/
theorem IsFirst.congr {other : CodePoint → CharClass} (h : IsFirst cls w r) (hcls : ∀ c ∈ w ++ r, cls c = other c) :
    IsFirst other w r := by
  have hword : ∀ c ∈ w, cls c = other c := fun c hc => hcls c (List.mem_append_left r hc)
  have hrest : ∀ c ∈ r, cls c = other c := fun c hc => hcls c (List.mem_append_right w hc)
  have hhead : ∀ (t : Text) j, (∀ c ∈ t, c ∈ r) → t.head?.any (isOf cls j) = t.head?.any (isOf other j) := by
    intro t j ht
    cases t with
    | nil => rfl
    | cons c t => simp [isOf, hrest c (ht c (by simp))]
  have hsame : ∀ j, r.head?.any (isOf cls j) = r.head?.any (isOf other j) := fun j => hhead r j fun _ hc => hc
  cases h with
  | letters hfront hne hw hr =>
      refine .letters (fun u hu => ?_) hne (fun c hc => ?_) (hsame _ ▸ hr)
      · rw [← hword u (by simp [Option.mem_def.1 hu]), hfront u hu]
      · rw [← hword c (by simp [hc]), hw c hc]
  | capitals hne hw hr hlast =>
      refine .capitals hne (fun c hc => hword c hc ▸ hw c hc) (hsame _ ▸ hr) ?_
      rintro u t rfl hu
      rw [← hhead t _ fun c hc => List.mem_cons_of_mem u hc]
      exact hlast u t rfl (hrest u (by simp) ▸ hu)
  | digits hne hw hr => exact .digits hne (fun c hc => hword c hc ▸ hw c hc) (hsame _ ▸ hr)

/-- So do the words of a text. -/
theorem Cuts.congr {other : CodePoint → CharClass} (h : Cuts cls t ws) (hcls : ∀ c ∈ t, cls c = other c) :
    Cuts other t ws := by
  induction h with
  | done => exact .done
  | @separator c t ws hc _ ih =>
      exact .separator (hcls c (by simp) ▸ hc) (ih fun d hd => hcls d (List.mem_cons_of_mem c hd))
  | @word w r ws hw _ ih => exact .word (hw.congr hcls) (ih fun d hd => hcls d (List.mem_append_right w hd))

end Rules

/-! ## Runs -/

/-- Neighbouring runs have different classes. -/
abbrev Alternate (runs : List (CharClass × Text)) : Prop := runs.IsChain fun r s => r.1 ≠ s.1

theorem alternate_consRun {runs : List (CharClass × Text)} (c : CodePoint) (h : Alternate runs) :
    Alternate (consRun c runs) := by
  cases runs with
  | nil => exact List.isChain_singleton _
  | cons r runs =>
      rw [consRun]
      split
      · -- The longer run has the class of the old one, and that is all its neighbour looks at.
        cases runs with
        | nil => exact List.isChain_singleton _
        | cons s runs =>
            rw [Alternate, List.isChain_cons_cons] at h ⊢
            exact h
      · next hne => exact List.isChain_cons_cons.2 ⟨hne, h⟩

theorem alternate_classRuns (t : Text) : Alternate (classRuns t) := by
  induction t with
  | nil => exact List.isChain_nil
  | cons c t ih => exact alternate_consRun c ih

/-- The text of runs begins with the class of the first one. -/
theorem head?_any_runs {k : CharClass} {runs : List (CharClass × Text)} (hruns : ∀ r ∈ runs, IsRun r)
    (h : ∀ r ∈ runs.head?, r.1 ≠ k) : (runs.flatMap (·.2)).head?.any (isOf CharClass.of k) = false := by
  cases runs with
  | nil => rfl
  | cons r runs =>
      obtain ⟨hne, hclass⟩ := hruns r (by simp)
      obtain ⟨c, u, hcu⟩ := List.exists_cons_of_ne_nil hne
      rw [List.flatMap_cons, hcu, List.cons_append]
      exact head?_any_isOf (hclass c (by simp [hcu])) (h r rfl)

/-- A word of letters takes the last of the capitals in front of it. -/
theorem isFirst_lettered {capitals letters : Text} {runs : List (CharClass × Text)}
    (hcapitals : IsRun (.capital, capitals)) (hletters : IsRun (.letter, letters)) (hruns : ∀ r ∈ runs, IsRun r)
    (h : ∀ r ∈ runs.head?, r.1 ≠ .letter) :
    IsFirst CharClass.of (capitals.getLast?.toList ++ letters) (runs.flatMap (·.2)) :=
  .letters (fun u hu => hcapitals.2 u (List.mem_of_getLast? hu)) hletters.1 hletters.2
    (head?_any_runs hruns h)

/-- Capitals in front of letters go on up to the last one. -/
theorem isFirst_front {capitals letters : Text} (rest : Text) (hcapitals : IsRun (.capital, capitals))
    (hletters : IsRun (.letter, letters)) (hne : capitals.dropLast ≠ []) :
    IsFirst CharClass.of capitals.dropLast (capitals.getLast?.toList ++ letters ++ rest) := by
  obtain ⟨c, u, rfl⟩ := List.exists_cons_of_ne_nil (show letters ≠ [] from hletters.1)
  have hlast := List.getLast?_eq_some_getLast (show capitals ≠ [] from hcapitals.1)
  have hclass : CharClass.of (capitals.getLast hcapitals.1) = .capital := hcapitals.2 _ (List.getLast_mem _)
  rw [hlast, Option.toList_some, List.singleton_append, List.cons_append, List.cons_append]
  refine .capitals hne (fun d hd => hcapitals.2 d (List.dropLast_subset _ hd)) (head?_any_isOf hclass (by simp)) ?_
  intro v t ht _
  cases ht
  exact isOf_iff.2 (hletters.2 c (by simp))

/-- **The words of runs** follow the rules. -/
theorem cuts_wordsOfRuns {runs : List (CharClass × Text)} (hruns : ∀ r ∈ runs, IsRun r) (halt : Alternate runs) :
    Cuts CharClass.of (runs.flatMap (·.2)) (wordsOfRuns runs) := by
  fun_induction wordsOfRuns runs with
  | case1 => exact .done
  | case2 run runs ih =>
      have hrest := ih (fun r hr => hruns r (List.mem_cons_of_mem _ hr)) halt.tail
      exact .separators (hruns (.separator, run) (by simp)).2 hrest
  | case3 capitals letters runs front word hfront ih =>
      have hrest : ∀ r ∈ runs, IsRun r := fun r hr => hruns r (by simp [hr])
      have hword : capitals ++ letters = word := by
        have hlast := dropLast_append_getLast? capitals
        rw [List.isEmpty_iff.1 (show capitals.dropLast.isEmpty = true from hfront), List.nil_append] at hlast
        rw [← hlast]
      have hfirst : IsFirst CharClass.of word (runs.flatMap (·.2)) :=
        isFirst_lettered (hruns _ (by simp)) (hruns _ (by simp)) hrest fun r hr => (halt.tail.rel_head? hr).symm
      rw [List.flatMap_cons, List.flatMap_cons, ← List.append_assoc, hword]
      exact .word hfirst (ih hrest halt.tail.tail)
  | case4 capitals letters runs front word hfront ih =>
      have hrest : ∀ r ∈ runs, IsRun r := fun r hr => hruns r (by simp [hr])
      have hcapitals : IsRun (.capital, capitals) := hruns _ (by simp)
      have hletters : IsRun (.letter, letters) := hruns _ (by simp)
      have hword : capitals ++ letters = front ++ word := by
        rw [← List.append_assoc, dropLast_append_getLast? capitals]
      have hfirst : IsFirst CharClass.of word (runs.flatMap (·.2)) :=
        isFirst_lettered hcapitals hletters hrest fun r hr => (halt.tail.rel_head? hr).symm
      have hfrontFirst : IsFirst CharClass.of front (word ++ runs.flatMap (·.2)) :=
        isFirst_front _ hcapitals hletters (by simpa using hfront)
      rw [List.flatMap_cons, List.flatMap_cons, ← List.append_assoc, hword, List.append_assoc]
      exact .word hfrontFirst (.word hfirst (ih hrest halt.tail.tail))
  | case5 k run runs hsep hcap ih =>
      have hrest : ∀ r ∈ runs, IsRun r := fun r hr => hruns r (by simp [hr])
      have hrun : IsRun (k, run) := hruns _ (by simp)
      have hnext : (runs.flatMap (·.2)).head?.any (isOf CharClass.of k) = false :=
        head?_any_runs hrest fun r hr => (halt.rel_head? hr).symm
      refine .word ?_ (ih hrest halt.tail)
      cases k with
      | capital =>
          have hletter : (runs.flatMap (·.2)).head?.any (isOf CharClass.of .letter) = false := by
            refine head?_any_runs hrest ?_
            rintro ⟨_, letters⟩ hr rfl
            obtain ⟨more, rfl⟩ := List.head?_eq_some_iff.1 hr
            exact hcap letters more rfl rfl
          have hlast : ∀ u t, runs.flatMap (·.2) = u :: t → CharClass.of u = .capital →
              t.head?.any (isOf CharClass.of .letter) = true := by
            intro u t ht hu
            rw [ht, List.head?_cons, Option.any_some, isOf_iff.2 hu] at hnext
            cases hnext
          exact .capitals hrun.1 hrun.2 hletter hlast
      | letter => exact .small hrun.1 hrun.2 hnext
      | digit => exact .digits hrun.1 hrun.2 hnext
      | separator => exact absurd rfl hsep

/-- **The words of a text** follow the rules. -/
theorem cuts_words (s : Text) : Cuts CharClass.of (plain s) (words s) := by
  have hruns := cuts_wordsOfRuns (isRun_of_mem_classRuns (plain s)) (alternate_classRuns (plain s))
  rw [flatMap_classRuns] at hruns
  exact hruns

/-! ## Words as matches -/

section Matches

variable (cls : CodePoint → CharClass)

/-- Letters with a capital in front or without. -/
def lettersPattern : Pattern := (Pattern.maybe (isOf cls .capital)).next (.run (isOf cls .letter))

/-- Capitals with something behind them. -/
def capitalsPattern (behind : Pattern) : Pattern := (Pattern.run (isOf cls .capital)).next behind

/-- What a word is: letters with a capital in front or without, or else capitals with no letter behind them, or
else digits. -/
def wordPattern : Pattern :=
  (lettersPattern cls).choice
    ((capitalsPattern cls (.notAhead (.point (isOf cls .letter)))).choice (.run (isOf cls .digit)))

variable {cls}

/-- A capital in front of letters cannot be left out. -/
theorem rests_letters {front : Option CodePoint} {w : Text} (hfront : ∀ u ∈ front, cls u = .capital) (hne : w ≠ [])
    (hw : ∀ c ∈ w, cls c = .letter) (r : Text) :
    (lettersPattern cls).rests (front.toList ++ w ++ r) = (Pattern.run (isOf cls .letter)).rests (w ++ r) := by
  rw [lettersPattern, Pattern.rests_next]
  cases front with
  | none =>
      have hmaybe : (Pattern.maybe (isOf cls .capital)).rests (w ++ r) = [w ++ r] :=
        Pattern.rests_maybe_refused (head?_any_run hne hw (by simp) r)
      simp [hmaybe]
  | some u =>
      have hu : cls u = .capital := hfront u rfl
      have hmaybe : (Pattern.maybe (isOf cls .capital)).rests (u :: (w ++ r)) = [w ++ r, u :: (w ++ r)] :=
        Pattern.rests_maybe_cons (isOf_iff.2 hu)
      have hrun : (Pattern.run (isOf cls .letter)).rests (u :: (w ++ r)) = [] :=
        Pattern.rests_run_refused (head?_any_isOf hu (by simp))
      simp [hmaybe, hrun]

/-- A word of letters is taken as a whole. -/
theorem head?_letters {front : Option CodePoint} {w r : Text} (hfront : ∀ u ∈ front, cls u = .capital) (hne : w ≠ [])
    (hw : ∀ c ∈ w, cls c = .letter) (hr : r.head?.any (isOf cls .letter) = false) :
    ((lettersPattern cls).rests (front.toList ++ w ++ r)).head? = some r := by
  rw [rests_letters hfront hne hw]
  exact Pattern.head?_run hne (isOf_of_all hw) hr

/-- Where no letter stands, with a capital in front or without, there is no word of letters. -/
theorem rests_letters_refused {t : Text} (h : t.head?.any (isOf cls .letter) = false)
    (hlast : ∀ u r, t = u :: r → cls u = .capital → r.head?.any (isOf cls .letter) = false) :
    (lettersPattern cls).rests t = [] := by
  have hrun : (Pattern.run (isOf cls .letter)).rests t = [] := Pattern.rests_run_refused h
  rw [lettersPattern, Pattern.rests_next]
  by_cases hcap : t.head?.any (isOf cls .capital) = true
  · cases t with
    | nil => cases hcap
    | cons u r =>
        have hu : isOf cls .capital u = true := hcap
        rw [Pattern.rests_maybe_cons hu]
        simp [hrun, Pattern.rests_run_refused (hlast u r rfl (isOf_iff.1 hu))]
  · rw [Pattern.rests_maybe_refused (by simpa using hcap)]
    simp [hrun]

/-- Capitals are no word of letters when the text goes on with another word. -/
theorem rests_letters_capitals {w r : Text} (hne : w ≠ []) (hw : ∀ c ∈ w, cls c = .capital)
    (hr : r.head?.any (isOf cls .letter) = false) : (lettersPattern cls).rests (w ++ r) = [] := by
  refine rests_letters_refused (head?_any_run hne hw (by simp) r) ?_
  obtain ⟨c, u, rfl⟩ := List.exists_cons_of_ne_nil hne
  rintro _ _ ⟨rfl, rfl⟩ _
  cases u with
  | nil => exact hr
  | cons d u => exact head?_any_isOf (hw d (by simp)) (by simp)

/-- Digits and separators begin no word of letters. -/
theorem rests_letters_other {c : CodePoint} {t : Text} (hletter : cls c ≠ .letter) (hcap : cls c ≠ .capital) :
    (lettersPattern cls).rests (c :: t) = [] := by
  refine rests_letters_refused (head?_any_isOf rfl hletter) ?_
  rintro _ _ ⟨rfl, rfl⟩ h
  exact absurd h hcap

/-- Capitals go on up to the last one when what is looked for behind them is there and not behind the last. -/
theorem head?_capitals {behind : Pattern} {w r : Text} (hne : w ≠ []) (hw : ∀ c ∈ w, cls c = .capital)
    (hlast : ∀ u t, r = u :: t → cls u = .capital → t.head?.any (isOf cls .letter) = true)
    (hbehind : (behind.rests r).head? = some r)
    (hletter : ∀ t, t.head?.any (isOf cls .letter) = true → behind.rests t = []) :
    ((capitalsPattern cls behind).rests (w ++ r)).head? = some r := by
  obtain ⟨c, u, rfl⟩ := List.exists_cons_of_ne_nil hne
  rw [capitalsPattern, List.cons_append, Pattern.rests_run_next (isOf_iff.2 (hw c (by simp)))]
  refine Pattern.head?_many_next (isOf_of_all fun d hd => hw d (List.mem_cons_of_mem c hd)) ?_
  by_cases hcap : r.head?.any (isOf cls .capital) = true
  · -- One capital more would leave a letter behind, so it is given back.
    cases r with
    | nil => cases hcap
    | cons v t =>
        have hv : isOf cls .capital v = true := hcap
        have ht := hlast v t rfl (isOf_iff.1 hv)
        have hstop : t.head?.any (isOf cls .capital) = false := by
          cases t with
          | nil => rfl
          | cons d t => exact head?_any_isOf (isOf_iff.1 ht) (by simp)
        rw [Pattern.rests_many_next_cons hv, Pattern.rests_next, Pattern.rests_many_stop hstop]
        simpa [hletter t ht] using hbehind
  · rw [Pattern.rests_next, Pattern.rests_many_stop (by simpa using hcap)]
    simpa using hbehind

theorem rests_capitals_refused {behind : Pattern} {t : Text} (h : t.head?.any (isOf cls .capital) = false) :
    (capitalsPattern cls behind).rests t = [] := by
  rw [capitalsPattern, Pattern.rests_next, Pattern.rests_run_refused h]
  rfl

/-- **The first word is the match** at the front of a text. -/
theorem IsFirst.head?_rests {w r : Text} (h : IsFirst cls w r) : ((wordPattern cls).rests (w ++ r)).head? = some r := by
  rw [wordPattern, Pattern.rests_choice, Pattern.rests_choice]
  cases h with
  | letters hfront hne hw hr =>
      rw [List.head?_append, head?_letters hfront hne hw hr]
      rfl
  | capitals hne hw hr hlast =>
      have hcapitals : ((capitalsPattern cls (.notAhead (.point (isOf cls .letter)))).rests (w ++ r)).head? = some r := by
        refine head?_capitals hne hw hlast ?_ ?_
        · rw [Pattern.rests_notAhead (Pattern.rests_point_refused hr)]
          rfl
        · intro t ht
          cases t with
          | nil => cases ht
          | cons d t =>
              apply Pattern.rests_notAhead_refused
              rw [Pattern.rests_point_cons ht]
              simp
      -- No letters begin here, so the second alternative is the first that matches.
      rw [rests_letters_capitals hne hw hr, List.nil_append, List.head?_append, hcapitals]
      rfl
  | digits hne hw hr =>
      have hletters : (lettersPattern cls).rests (w ++ r) = [] := by
        obtain ⟨c, u, rfl⟩ := List.exists_cons_of_ne_nil hne
        have hc : cls c = .digit := hw c (by simp)
        exact rests_letters_other (by simp [hc]) (by simp [hc])
      rw [hletters, rests_capitals_refused (head?_any_run hne hw (by simp) r), List.nil_append, List.nil_append]
      exact Pattern.head?_run hne (isOf_of_all hw) hr

/-- **The words of a text are the matches** of the pattern. -/
theorem Cuts.found_eq {t : Text} {ws : List Text} (h : Cuts cls t ws) : (wordPattern cls).found t = ws := by
  induction h with
  | done => rfl
  | @separator c t ws hc _ ih =>
      have hrefused : (wordPattern cls).rests (c :: t) = [] := by
        rw [wordPattern, Pattern.rests_choice, Pattern.rests_choice,
          rests_letters_other (by simp [hc]) (by simp [hc]), rests_capitals_refused (head?_any_isOf hc (by simp)),
          Pattern.rests_run_refused (head?_any_isOf hc (by simp))]
        rfl
      rw [Pattern.found_cons_of_refused hrefused, ih]
  | word hw _ ih => rw [Pattern.found_append hw.shape.ne_nil hw.head?_rests, ih]

end Matches

/-! ## Words as segments -/

/-- Whether a word ends between two letters or digits, by their classes and that of the code point right behind
them: between a small letter and a capital, between a letter and a digit, and between capitals when a small letter
follows. -/
def isCut : CharClass → CharClass → Option CharClass → Bool
  | .letter, .capital, _ => true
  | .letter, .digit, _ => true
  | .capital, .digit, _ => true
  | .digit, .letter, _ => true
  | .digit, .capital, _ => true
  | .capital, .capital, next => next == some .letter
  | _, _, _ => false

section Segments

variable (cls : CodePoint → CharClass)

/-- Whether the word of a letter or digit goes on in the text behind it. -/
def goesOn (c : CodePoint) : Text → Bool
  | [] => false
  | d :: t => cls d != .separator && !isCut (cls c) (cls d) (t.head?.map cls)

/-- Puts a code point in front of the first segment. -/
def growFirst (c : CodePoint) : List Text → List Text
  | [] => [[c]]
  | w :: ws => (c :: w) :: ws

/-- A text without its separators, cut there and wherever else a word ends. -/
def segments : Text → List Text
  | [] => []
  | c :: t =>
      if cls c = .separator then segments t
      else if goesOn cls c t then growFirst c (segments t)
      else [c] :: segments t

variable {cls} {k : CharClass} {c : CodePoint} {t w r : Text}

theorem isCut_capitals (next : Option CharClass) : isCut .capital .capital next = (next == some .letter) := rfl

theorem goesOn_cons (c d : CodePoint) (t : Text) :
    goesOn cls c (d :: t) = (cls d != .separator && !isCut (cls c) (cls d) (t.head?.map cls)) := rfl

theorem segments_cons (c : CodePoint) (t : Text) :
    segments cls (c :: t) =
      if cls c = .separator then segments cls t
      else if goesOn cls c t then growFirst c (segments cls t)
      else [c] :: segments cls t := rfl

theorem segments_separator (h : cls c = .separator) : segments cls (c :: t) = segments cls t := by
  rw [segments_cons, if_pos h]

theorem segments_last (hc : cls c ≠ .separator) (h : goesOn cls c t = false) :
    segments cls (c :: t) = [c] :: segments cls t := by
  rw [segments_cons, if_neg hc, h]
  rfl

theorem segments_goesOn (hc : cls c ≠ .separator) (h : goesOn cls c t = true) :
    segments cls (c :: t) = growFirst c (segments cls t) := by
  rw [segments_cons, if_neg hc, if_pos h]

/-- Within code points of one class a word goes on, unless the last of them are capitals with a letter behind. -/
theorem goesOn_run (hk : k ≠ .separator) (hw : ∀ c ∈ w, cls c = k) (hne : w ≠ []) (hc : cls c = k)
    (hr : k = .capital → r.head?.any (isOf cls .letter) = false) : goesOn cls c (w ++ r) = true := by
  obtain ⟨d, u, rfl⟩ := List.exists_cons_of_ne_nil hne
  have hd : cls d = k := hw d (by simp)
  have hnext : k = .capital → (u ++ r).head?.map cls ≠ some .letter := by
    rintro rfl
    cases u with
    | nil =>
        cases r with
        | nil => simp
        | cons e r => simpa [isOf] using hr rfl
    | cons e u => simp [hw e (by simp)]
  rw [List.cons_append, goesOn_cons, hc, hd]
  cases k with
  | capital => simpa [isCut_capitals] using hnext rfl
  | letter => rfl
  | digit => rfl
  | separator => exact absurd rfl hk

/-- A run of one class is a segment when no word goes on behind it. -/
theorem segments_run (hk : k ≠ .separator) (hne : w ≠ []) (hw : ∀ c ∈ w, cls c = k)
    (hr : k = .capital → r.head?.any (isOf cls .letter) = false) (hend : ∀ c, cls c = k → goesOn cls c r = false) :
    segments cls (w ++ r) = w :: segments cls r := by
  induction w with
  | nil => exact absurd rfl hne
  | cons c w ih =>
      have hc : cls c = k := hw c (by simp)
      have hsep : cls c ≠ .separator := hc ▸ hk
      have hrest : ∀ d ∈ w, cls d = k := fun d hd => hw d (List.mem_cons_of_mem c hd)
      by_cases hnil : w = []
      · subst hnil
        exact segments_last hsep (hend c hc)
      · rw [List.cons_append, segments_goesOn hsep (goesOn_run hk hrest hnil hc hr), ih hnil hrest]
        rfl

/-- Behind all letters, or all digits, of a run the word does not go on. -/
theorem goesOn_behind (hk : k = .letter ∨ k = .digit) (hc : cls c = k) (hr : r.head?.any (isOf cls k) = false) :
    goesOn cls c r = false := by
  cases r with
  | nil => rfl
  | cons d r =>
      have hd : cls d ≠ k := by simpa [isOf] using hr
      rw [goesOn_cons, hc]
      rcases hk with rfl | rfl
      · cases h : cls d with
        | letter => exact absurd h hd
        | capital => rfl
        | digit => rfl
        | separator => rfl
      · cases h : cls d with
        | digit => exact absurd h hd
        | letter => rfl
        | capital => rfl
        | separator => rfl

/-- Behind all capitals of a word it does not go on either. -/
theorem goesOn_capitals (hc : cls c = .capital) (hr : r.head?.any (isOf cls .letter) = false)
    (hlast : ∀ u t, r = u :: t → cls u = .capital → t.head?.any (isOf cls .letter) = true) :
    goesOn cls c r = false := by
  cases r with
  | nil => rfl
  | cons d r =>
      have hd : cls d ≠ .letter := by simpa [isOf] using hr
      rw [goesOn_cons, hc]
      cases h : cls d with
      | capital =>
          have hnext := hlast d r rfl h
          cases r with
          | nil => cases hnext
          | cons e r => simp [isCut_capitals, isOf_iff.1 hnext]
      | letter => exact absurd h hd
      | digit => rfl
      | separator => rfl

/-- **The first word is the first segment.** -/
theorem IsFirst.segments_eq (h : IsFirst cls w r) : segments cls (w ++ r) = w :: segments cls r := by
  cases h with
  | @letters front w r hfront hne hw hr =>
      -- The letters alone are a segment, and a capital in front makes it longer.
      have hword : segments cls (w ++ r) = w :: segments cls r :=
        segments_run (by simp) hne hw (by simp) fun c hc => goesOn_behind (.inl rfl) hc hr
      cases front with
      | none => exact hword
      | some u =>
          have hu : cls u = .capital := hfront u rfl
          have hgoes : goesOn cls u (w ++ r) = true := by
            obtain ⟨c, v, rfl⟩ := List.exists_cons_of_ne_nil hne
            rw [List.cons_append, goesOn_cons, hu, hw c (by simp)]
            rfl
          rw [Option.toList_some, List.singleton_append, List.cons_append,
            segments_goesOn (by simp [hu]) hgoes, hword]
          rfl
  | capitals hne hw hr hlast =>
      exact segments_run (by simp) hne hw (fun _ => hr) fun c hc => goesOn_capitals hc hr hlast
  | digits hne hw hr =>
      exact segments_run (by simp) hne hw (by simp) fun c hc => goesOn_behind (.inr rfl) hc hr

/-- **The words of a text are its segments.** -/
theorem Cuts.segments_eq {ws : List Text} (h : Cuts cls t ws) : segments cls t = ws := by
  induction h with
  | done => rfl
  | separator hc _ ih => rw [segments_separator hc, ih]
  | word hw _ ih => rw [hw.segments_eq, ih]

/-! ## Where segments end -/

/-- Whether one of the words ends behind the first `n` code points that they hold. -/
def EndsAt (ws : List Text) (n : Nat) : Prop := ∃ us vs, ws = us ++ vs ∧ us.flatten.length = n

theorem endsAt_cons {ws : List Text} {n : Nat} :
    EndsAt (w :: ws) n ↔ n = 0 ∨ ∃ m, n = w.length + m ∧ EndsAt ws m := by
  constructor
  · rintro ⟨us, vs, heq, hlen⟩
    cases us with
    | nil => exact .inl hlen.symm
    | cons u us =>
        cases heq
        rw [List.flatten_cons, List.length_append] at hlen
        exact .inr ⟨us.flatten.length, hlen.symm, us, vs, rfl, rfl⟩
  · rintro (rfl | ⟨_, rfl, us, vs, rfl, rfl⟩)
    · exact ⟨[], w :: ws, rfl, rfl⟩
    · exact ⟨w :: us, vs, rfl, by simp⟩

theorem endsAt_nil {n : Nat} : EndsAt [] n ↔ n = 0 := by
  constructor
  · rintro ⟨us, vs, heq, hlen⟩
    rw [(List.nil_eq_append_iff.1 heq).1] at hlen
    exact hlen.symm
  · rintro rfl
    exact ⟨[], [], rfl, rfl⟩

/-- A word that grows ends one code point later. -/
theorem endsAt_growFirst {ws : List Text} {n : Nat} (hn : n ≠ 0) : EndsAt (growFirst c ws) (n + 1) ↔ EndsAt ws n := by
  have hadd : ∀ l m : Nat, n + 1 = l + 1 + m ↔ n = l + m := by omega
  cases ws with
  | nil => simp [growFirst, endsAt_cons, endsAt_nil, hn, Nat.add_comm 1]
  | cons w ws => simp [growFirst, endsAt_cons, hn, hadd]

/-- A letter or digit begins a segment. -/
theorem exists_segments (hc : cls c ≠ .separator) (t : Text) : ∃ w ws, segments cls (c :: t) = (c :: w) :: ws := by
  by_cases h : goesOn cls c t = true
  · rw [segments_goesOn hc h]
    cases segments cls t with
    | nil => exact ⟨[], [], rfl⟩
    | cons w ws => exact ⟨w, ws, rfl⟩
  · rw [segments_last hc (by simpa using h)]
    exact ⟨[], _, rfl⟩

/-- How many letters and digits a text has. -/
def letterCount (cls : CodePoint → CharClass) (t : Text) : Nat := (t.filter fun c => cls c ≠ .separator).length

/-- **Where segments end**: a segment ends behind a letter or digit exactly when its word does not go on there. -/
theorem endsAt_segments_iff (p : Text) (hc : cls c ≠ .separator) :
    EndsAt (segments cls (p ++ c :: t)) (letterCount cls (p ++ [c])) ↔ goesOn cls c t = false := by
  -- On the text in front: each letter or digit there makes both the segments and the count one longer.
  induction p with
  | nil =>
      have hone : letterCount cls [c] = 1 := by simp [letterCount, hc]
      rw [List.nil_append, List.nil_append, hone]
      cases h : goesOn cls c t with
      | false =>
          rw [segments_last hc h]
          exact iff_of_true ⟨[[c]], _, rfl, rfl⟩ rfl
      | true =>
          cases t with
          | nil => cases h
          | cons d t =>
              have hd : cls d ≠ .separator := by
                rw [goesOn_cons, Bool.and_eq_true, bne_iff_ne] at h
                exact h.1
              obtain ⟨w, ws, hs⟩ := exists_segments hd t
              rw [segments_goesOn hc h, hs]
              have hlong : ∀ m : Nat, 1 ≠ w.length + 1 + 1 + m := by omega
              simp [growFirst, endsAt_cons, hlong]
  | cons e p ih =>
      have hpos : letterCount cls (p ++ [c]) ≠ 0 := by simp [letterCount, hc]
      by_cases he : cls e = .separator
      · have hsame : letterCount cls (e :: (p ++ [c])) = letterCount cls (p ++ [c]) := by simp [letterCount, he]
        rw [List.cons_append, List.cons_append, segments_separator he, hsame, ih]
      · have hmore : letterCount cls (e :: (p ++ [c])) = letterCount cls (p ++ [c]) + 1 := by simp [letterCount, he]
        rw [List.cons_append, List.cons_append, hmore, ← ih]
        cases h : goesOn cls e (p ++ c :: t) with
        | true => rw [segments_goesOn he h, endsAt_growFirst hpos]
        | false =>
            rw [segments_last he h, endsAt_cons]
            simp [Nat.add_comm _ 1]

end Segments

/-! ## The words of a text -/

/-- **Where words begin and end.** The words of a text are the segments of the text without apostrophes and
accents, and also the matches of the pattern in it. A word ends behind a letter or digit exactly when the word does
not go on in the text behind: at the end, at a separator, between a small letter and a capital, between a letter and
a digit, and between two capitals with a small letter right behind. Put together the words are the text without its
separators, and each of them is of one of the three shapes. -/
theorem words_at_boundaries (s : Text) :
    words s = segments CharClass.of (plain s) ∧
      words s = (wordPattern CharClass.of).found (plain s) ∧
      (∀ p c t, plain s = p ++ c :: t → CharClass.of c ≠ .separator →
        (EndsAt (words s) (letterCount CharClass.of (p ++ [c])) ↔ goesOn CharClass.of c t = false)) ∧
      (words s).flatten = (plain s).filter (fun c => CharClass.of c ≠ .separator) ∧
      ∀ w ∈ words s, IsShape CharClass.of w := by
  have hcuts := cuts_words s
  have hsegments := hcuts.segments_eq.symm
  refine ⟨hsegments, hcuts.found_eq.symm, ?_, flatten_words s, hcuts.shape⟩
  intro p c t hplain hc
  rw [hsegments, hplain]
  exact endsAt_segments_iff p hc

/-- A run of capitals leaves its last one to the small letters behind it, and the digit is a word of its own. -/
theorem xmlHttp2_at_boundaries :
    words "XMLHttp2" = ["XML", "Http", "2"] ∧ ¬ EndsAt (words "XMLHttp2") 2 ∧ EndsAt (words "XMLHttp2") 3 ∧
      IsShape CharClass.of ("Http" : Text) := by
  have hwords : words "XMLHttp2" = ["XML", "Http", "2"] := by decide +kernel
  obtain ⟨_, _, hends, _, hshape⟩ := words_at_boundaries "XMLHttp2"
  have hsecond := hends "X" 'M'.toNat "LHttp2" (by decide +kernel) (by decide +kernel)
  have hthird := hends "XM" 'L'.toNat "Http2" (by decide +kernel) (by decide +kernel)
  have htwo : letterCount CharClass.of (("X" : Text) ++ ['M'.toNat]) = 2 := by decide +kernel
  have hthree : letterCount CharClass.of (("XM" : Text) ++ ['L'.toNat]) = 3 := by decide +kernel
  rw [htwo] at hsecond
  rw [hthree] at hthird
  refine ⟨hwords, ?_, hthird.2 (by decide +kernel), hshape "Http" (by rw [hwords]; decide)⟩
  rw [hsecond]
  decide +kernel

end StepForge.Naming
