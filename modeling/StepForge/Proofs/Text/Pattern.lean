import StepForge.Text.Basic

/-!
# `StepForge.Proofs.Text.Pattern` — what a pattern finds in a text

A pattern can match at one place in several ways. They come in an order: of two alternatives the first is
preferred, and of a repetition the longest. A way that leads nowhere gives place to the next one, and the first
that is left is the match. A search takes one match after another, from left to right.

## Contents
- `Pattern`, `Pattern.rests` — patterns, and what is left of a text behind each way to match, preferred first.
- `Pattern.maybe`, `Pattern.run`, `Pattern.ahead`, `Pattern.finish`, `Pattern.literal` — patterns made of others.
- `Pattern.match?`, `Pattern.found` — the match at a place, and all matches.
- `found_cons_of_refused`, `found_append` — how a search goes on.
- `rests_many_next`, `head?_many_next` — a repetition that must not give anything back, and one that may.
-/

namespace StepForge.Text

/-! ## Patterns -/

/-- What can be looked for at a place of a text. -/
inductive Pattern where
  /-- Nothing, which is everywhere. -/
  | nothing
  /-- One code point that passes a test. -/
  | point (test : CodePoint → Bool)
  /-- As many code points as pass a test, or fewer. -/
  | many (test : CodePoint → Bool)
  /-- One pattern behind another. -/
  | next (first second : Pattern)
  /-- The first of two patterns, or else the second. -/
  | choice (first second : Pattern)
  /-- Nothing, where a pattern does not match. -/
  | notAhead (p : Pattern)

/-- What is left of a text when the code points at its front that pass a test are taken away, or fewer of them. -/
def restsOfMany (test : CodePoint → Bool) : Text → List Text
  | [] => [[]]
  | c :: t => if test c then restsOfMany test t ++ [c :: t] else [c :: t]

namespace Pattern

/-- What is left of a text behind each way in which a pattern matches at its front, preferred ways first. -/
def rests : Pattern → Text → List Text
  | nothing, t => [t]
  | point test, t => match t with
    | [] => []
    | c :: t => if test c then [t] else []
  | many test, t => restsOfMany test t
  | next p q, t => (p.rests t).flatMap fun r => q.rests r
  | choice p q, t => p.rests t ++ q.rests t
  | notAhead p, t => if (p.rests t).isEmpty then [t] else []

/-- One code point that passes a test, if there is one. -/
def maybe (test : CodePoint → Bool) : Pattern := (point test).choice nothing

/-- One code point at least, and as many as pass a test. -/
def run (test : CodePoint → Bool) : Pattern := (point test).next (many test)

/-- Nothing, where a pattern matches. -/
def ahead (p : Pattern) : Pattern := notAhead (notAhead p)

/-- The end of a text. -/
def finish : Pattern := notAhead (point fun _ => true)

/-- The code points of a text. -/
def literal (t : Text) : Pattern := t.foldr (fun c p => (point (· == c)).next p) nothing

/-- What a pattern matches at the front of a text. -/
def match? (p : Pattern) (t : Text) : Option Text :=
  (p.rests t).head?.map fun r => t.take (t.length - r.length)

/-- The matches of a pattern that matches no empty text, left to right and without overlaps; the count says how
many code points of the last match are still to be passed over. -/
def foundFrom (p : Pattern) : Nat → Text → List Text
  | _, [] => []
  | k + 1, _ :: t => p.foundFrom k t
  | 0, c :: t => match p.match? (c :: t) with
    | none => p.foundFrom 0 t
    | some w => w :: p.foundFrom (w.length - 1) t

/-- The matches of a pattern that matches no empty text, left to right and without overlaps. -/
def found (p : Pattern) (t : Text) : List Text := p.foundFrom 0 t

/-! ## Searches -/

/-- Where a pattern does not match, the search goes on behind the next code point. -/
theorem found_cons_of_refused {p : Pattern} {c : CodePoint} {t : Text} (h : p.rests (c :: t) = []) :
    p.found (c :: t) = p.found t := by
  have hnone : p.match? (c :: t) = none := by rw [match?, h]; rfl
  rw [found, foundFrom, hnone]
  rfl

theorem foundFrom_append (p : Pattern) (w r : Text) : p.foundFrom w.length (w ++ r) = p.found r := by
  induction w with
  | nil => rfl
  | cons c w ih => rw [List.cons_append, List.length_cons, foundFrom, ih]

/-- **A match is found**, and the search goes on behind it. -/
theorem found_append {p : Pattern} {w r : Text} (hw : w ≠ []) (h : (p.rests (w ++ r)).head? = some r) :
    p.found (w ++ r) = w :: p.found r := by
  have hmatch : p.match? (w ++ r) = some w := by
    rw [match?, h, Option.map_some, List.length_append, Nat.add_sub_cancel, List.take_left]
  cases w with
  | nil => exact absurd rfl hw
  | cons c w =>
      rw [List.cons_append] at hmatch ⊢
      rw [found, foundFrom, hmatch]
      exact congrArg _ (foundFrom_append p w r)

/-! ## Ways to match -/

section Rests

variable {p q : Pattern} {test : CodePoint → Bool} {c : CodePoint} {t w r : Text}

theorem rests_next (p q : Pattern) (t : Text) : (p.next q).rests t = (p.rests t).flatMap fun r => q.rests r := rfl

theorem rests_choice (p q : Pattern) (t : Text) : (p.choice q).rests t = p.rests t ++ q.rests t := rfl

theorem rests_point (test : CodePoint → Bool) (c : CodePoint) (t : Text) :
    (point test).rests (c :: t) = if test c then [t] else [] := rfl

theorem rests_notAhead_eq (p : Pattern) (t : Text) :
    (notAhead p).rests t = if (p.rests t).isEmpty then [t] else [] := rfl

theorem rests_point_cons (h : test c = true) : (point test).rests (c :: t) = [t] := by rw [rests_point, if_pos h]

/-- A text that does not begin with a code point of a test. -/
theorem rests_point_refused (h : t.head?.any test = false) : (point test).rests t = [] := by
  cases t with
  | nil => rfl
  | cons c t =>
      have hc : test c = false := h
      rw [rests_point, hc]
      rfl

theorem rests_run_refused (h : t.head?.any test = false) : (run test).rests t = [] := by
  rw [run, rests_next, rests_point_refused h]
  rfl

theorem rests_maybe_refused (h : t.head?.any test = false) : (maybe test).rests t = [t] := by
  rw [maybe, rests_choice, rests_point_refused h]
  rfl

theorem rests_maybe_cons (h : test c = true) : (maybe test).rests (c :: t) = [t, c :: t] := by
  rw [maybe, rests_choice, rests_point_cons h]
  rfl

theorem rests_next_assoc (p q s : Pattern) (t : Text) : ((p.next q).next s).rests t = (p.next (q.next s)).rests t := by
  simp only [rests_next, List.flatMap_assoc]

theorem rests_next_nothing (p : Pattern) (t : Text) : (p.next nothing).rests t = p.rests t := by
  rw [rests_next]
  exact List.flatMap_singleton' _

theorem rests_ahead (p : Pattern) (t : Text) :
    p.ahead.rests t = if (p.rests t).isEmpty then [] else [t] := by
  rw [ahead, rests_notAhead_eq, rests_notAhead_eq]
  cases p.rests t <;> rfl

theorem rests_notAhead (h : p.rests t = []) : (notAhead p).rests t = [t] := by
  rw [rests_notAhead_eq, h]
  rfl

theorem rests_notAhead_refused (h : p.rests t ≠ []) : (notAhead p).rests t = [] := by
  rw [rests_notAhead_eq, if_neg (by simpa using h)]

theorem rests_notAhead_next (h : q.rests t = []) : ((notAhead p).next q).rests t = [] := by
  rw [rests_next]
  by_cases hp : p.rests t = []
  · rw [rests_notAhead hp, List.flatMap_singleton, h]
  · rw [rests_notAhead_refused hp]
    rfl

/-- The code points of a text match where the text can be taken away. -/
theorem rests_literal (u t : Text) : (literal u).rests t = (dropStart? u t).toList := by
  induction u generalizing t with
  | nil => rfl
  | cons c u ih =>
      cases t with
      | nil => rfl
      | cons d t =>
          show ((point (· == c)).rests (d :: t)).flatMap (fun r => (literal u).rests r) = _
          rw [rests_point, dropStart?]
          by_cases h : c = d
          · rw [if_pos (by simpa using h.symm), if_pos h, List.flatMap_singleton, ih]
          · rw [if_neg (by simpa using Ne.symm h), if_neg h]
            rfl

/-! ## Repetitions -/

theorem rests_many (test : CodePoint → Bool) (c : CodePoint) (t : Text) :
    (many test).rests (c :: t) = if test c then (many test).rests t ++ [c :: t] else [c :: t] := rfl

theorem rests_many_stop (h : t.head?.any test = false) : (many test).rests t = [t] := by
  cases t with
  | nil => rfl
  | cons c t =>
      have hc : test c = false := h
      rw [rests_many, hc]
      rfl

theorem rests_many_cons (h : test c = true) :
    (many test).rests (c :: t) = (many test).rests t ++ [c :: t] := by
  rw [rests_many, if_pos h]

theorem rests_many_next_cons (h : test c = true) :
    ((many test).next q).rests (c :: t) = ((many test).next q).rests t ++ q.rests (c :: t) := by
  simp [rests_next, rests_many_cons h]

/-- **A repetition that gives nothing back**: what stands behind it is refused as long as something of it is left. -/
theorem rests_many_next (hw : ∀ c ∈ w, test c = true) (hq : ∀ s, s ≠ [] → s <:+ w → q.rests (s ++ r) = []) :
    ((many test).next q).rests (w ++ r) = ((many test).next q).rests r := by
  -- On what is taken: its first code point adds one way to stop, in front of all of it, and that way is refused.
  induction w with
  | nil => rfl
  | cons c w ih =>
      have hrest := ih (fun d hd => hw d (List.mem_cons_of_mem c hd))
        fun s hne hs => hq s hne (hs.trans (List.suffix_cons c w))
      rw [List.cons_append, rests_many_next_cons (hw c (by simp)), hrest, ← List.cons_append,
        hq (c :: w) (by simp) (List.suffix_refl _), List.append_nil]

/-- **A repetition that may give something back**: what matches behind fewer code points is still preferred to
what matches behind none. -/
theorem head?_many_next {x : Text} (hw : ∀ c ∈ w, test c = true)
    (h : (((many test).next q).rests r).head? = some x) :
    (((many test).next q).rests (w ++ r)).head? = some x := by
  induction w with
  | nil => exact h
  | cons c w ih =>
      rw [List.cons_append, rests_many_next_cons (hw c (by simp)), List.head?_append,
        ih fun d hd => hw d (List.mem_cons_of_mem c hd)]
      rfl

/-- What a repetition can leave. -/
theorem mem_rests_many {x : Text} (hw : ∀ c ∈ w, test c = true) (hr : r.head?.any test = false)
    (hx : x ∈ (many test).rests (w ++ r)) : ∃ s, s <:+ w ∧ x = s ++ r := by
  induction w with
  | nil =>
      rw [List.nil_append, rests_many_stop hr, List.mem_singleton] at hx
      exact ⟨[], List.suffix_refl _, hx⟩
  | cons c w ih =>
      rw [List.cons_append, rests_many_cons (hw c (by simp)), List.mem_append, List.mem_singleton] at hx
      rcases hx with hx | rfl
      · obtain ⟨s, hs, rfl⟩ := ih (fun d hd => hw d (List.mem_cons_of_mem c hd)) hx
        exact ⟨s, hs.trans (List.suffix_cons c w), rfl⟩
      · exact ⟨c :: w, List.suffix_refl _, rfl⟩

theorem mem_rests_run {x : Text} (hw : ∀ c ∈ w, test c = true) (hr : r.head?.any test = false)
    (hx : x ∈ (run test).rests (w ++ r)) : ∃ s, s <:+ w ∧ x = s ++ r := by
  cases w with
  | nil =>
      rw [List.nil_append, rests_run_refused hr] at hx
      cases hx
  | cons c w =>
      rw [run, List.cons_append, rests_next, rests_point_cons (hw c (by simp)), List.flatMap_singleton] at hx
      obtain ⟨s, hs, rfl⟩ := mem_rests_many (fun d hd => hw d (List.mem_cons_of_mem c hd)) hr hx
      exact ⟨s, hs.trans (List.suffix_cons c w), rfl⟩

theorem rests_run_next (hc : test c = true) (q : Pattern) (t : Text) :
    ((run test).next q).rests (c :: t) = ((many test).next q).rests t := by
  rw [run, rests_next_assoc, rests_next, rests_point_cons hc]
  simp

/-- It is preferred that a repetition takes all. -/
theorem head?_run (hne : w ≠ []) (hw : ∀ c ∈ w, test c = true) (hr : r.head?.any test = false) :
    ((run test).rests (w ++ r)).head? = some r := by
  cases w with
  | nil => exact absurd rfl hne
  | cons c w =>
      have hstop : (((many test).next nothing).rests r).head? = some r := by
        rw [rests_next_nothing, rests_many_stop hr]
        rfl
      rw [← rests_next_nothing, List.cons_append, rests_run_next (hw c (by simp))]
      exact head?_many_next (fun d hd => hw d (List.mem_cons_of_mem c hd)) hstop

end Rests

end Pattern
end StepForge.Text
