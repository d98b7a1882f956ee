import Mathlib.Data.List.Induction
import StepForge.Text.Basic

/-!
# `StepForge.Proofs.Text.Split` — cutting undoes joining

`Text.splitOn` cuts at every occurrence of one code point. Behind a piece that does not hold the code
point it gives that piece back, so pieces that were joined with it come back as they were. Lines, names
in paths and words in file names are all read back this way.
-/

namespace StepForge.Text

theorem splitOn_ne_nil (sep : CodePoint) (t : Text) : splitOn sep t ≠ [] := by
  induction t with
  | nil => simp [splitOn]
  | cons c t ih =>
      unfold splitOn
      split
      · simp
      · split
        · simp
        · simp

/-- A text without the separator is one piece. -/
theorem splitOn_eq_singleton {sep : CodePoint} {t : Text} (h : sep ∉ t) : splitOn sep t = [t] := by
  induction t with
  | nil => rfl
  | cons c t ih =>
      rw [List.mem_cons, not_or] at h
      rw [splitOn, if_neg (Ne.symm h.1), ih h.2]

/-- **A separator ends the pieces in front of it.** -/
theorem splitOn_append_sep (sep : CodePoint) (s t : Text) :
    splitOn sep (s ++ sep :: t) = splitOn sep s ++ splitOn sep t := by
  induction s with
  | nil => simp [splitOn]
  | cons c s ih =>
      rw [List.cons_append]
      by_cases hc : c = sep
      · rw [splitOn, if_pos hc, splitOn, if_pos hc, ih]; rfl
      · rw [splitOn, if_neg hc, splitOn, if_neg hc, ih]
        cases hs : splitOn sep s with
        | nil => exact absurd hs (splitOn_ne_nil sep s)
        | cons piece pieces => rfl

@[simp] theorem join_nil (sep : Text) : join sep [] = [] := rfl

@[simp] theorem join_singleton (sep t : Text) : join sep [t] = t := rfl

theorem join_cons_cons (sep t u : Text) (ts : List Text) :
    join sep (t :: u :: ts) = t ++ sep ++ join sep (u :: ts) := rfl

theorem join_append_singleton (sep : Text) {ts : List Text} (h : ts ≠ []) (t : Text) :
    join sep (ts ++ [t]) = join sep ts ++ sep ++ t := by
  induction ts with
  | nil => exact absurd rfl h
  | cons u ts ih =>
      cases ts with
      | nil => rfl
      | cons v ts =>
          have hrest := ih (by simp)
          rw [List.cons_append] at hrest
          rw [List.cons_append, List.cons_append, join_cons_cons, join_cons_cons, hrest]
          simp only [List.append_assoc]

/-- A last piece stands at the end of joined pieces. -/
theorem getLast?_suffix_join (sep : Text) (ts : List Text) : ts.getLast?.getD [] <:+ join sep ts := by
  induction ts using List.reverseRecOn with
  | nil => exact List.suffix_refl _
  | append_singleton ts t _ =>
      rw [List.getLast?_concat, Option.getD_some]
      by_cases hts : ts = []
      · subst hts
        exact List.suffix_refl _
      · rw [join_append_singleton sep hts]
        exact ⟨_, rfl⟩

/-- **Joined pieces come back** when none of them holds the separator. -/
theorem splitOn_join {sep : CodePoint} {ts : List Text} (hne : ts ≠ []) (h : ∀ t ∈ ts, sep ∉ t) :
    splitOn sep (join [sep] ts) = ts := by
  induction ts with
  | nil => exact absurd rfl hne
  | cons t ts ih =>
      have ht : splitOn sep t = [t] := splitOn_eq_singleton (h t (by simp))
      cases ts with
      | nil => exact ht
      | cons u ts =>
          rw [join_cons_cons, List.append_assoc, List.singleton_append, splitOn_append_sep, ht,
            ih (by simp) (fun v hv => h v (List.mem_cons_of_mem t hv))]
          rfl

theorem join_eq_nil_iff {sep : Text} {ts : List Text} (h : ∀ t ∈ ts, t ≠ []) :
    join sep ts = [] ↔ ts = [] := by
  constructor
  · intro hj
    match ts with
    | [] => rfl
    | [t] => exact absurd hj (h t (by simp))
    | t :: u :: ts =>
        rw [join_cons_cons, List.append_eq_nil_iff, List.append_eq_nil_iff] at hj
        exact absurd hj.1.1 (h t (by simp))
  · rintro rfl
    rfl

/-- **Joining is injective** on pieces that are not empty and do not hold the separator. -/
theorem join_injective {sep : CodePoint} {ts us : List Text}
    (ht : ∀ t ∈ ts, t ≠ [] ∧ sep ∉ t) (hu : ∀ u ∈ us, u ≠ [] ∧ sep ∉ u) :
    join [sep] ts = join [sep] us ↔ ts = us := by
  constructor
  · intro h
    by_cases hts : ts = []
    · subst hts
      exact ((join_eq_nil_iff fun u hu' => (hu u hu').1).1 h.symm).symm
    · have hus : us ≠ [] := by
        rintro rfl
        exact hts ((join_eq_nil_iff fun t ht' => (ht t ht').1).1 h)
      rw [← splitOn_join hts fun t ht' => (ht t ht').2, h,
        splitOn_join hus fun u hu' => (hu u hu').2]
  · rintro rfl
    rfl

theorem notMem_of_mem_splitOn {sep : CodePoint} {t piece : Text} (h : piece ∈ splitOn sep t) :
    sep ∉ piece := by
  induction t generalizing piece with
  | nil =>
      rw [splitOn, List.mem_singleton] at h
      simp [h]
  | cons c t ih =>
      rw [splitOn] at h
      by_cases hc : c = sep
      · rw [if_pos hc, List.mem_cons] at h
        rcases h with rfl | h
        · simp
        · exact ih h
      · rw [if_neg hc] at h
        cases hs : splitOn sep t with
        | nil => exact absurd hs (splitOn_ne_nil sep t)
        | cons first pieces =>
            simp only [hs, List.mem_cons] at h
            rcases h with rfl | h
            · rw [List.mem_cons, not_or]
              exact ⟨Ne.symm hc, ih (by simp [hs])⟩
            · exact ih (by simp [hs, h])

/-- **Cut pieces joined again** give the text. -/
theorem join_splitOn (sep : CodePoint) (t : Text) : join [sep] (splitOn sep t) = t := by
  induction t with
  | nil => rfl
  | cons c t ih =>
      rw [splitOn]
      cases hs : splitOn sep t with
      | nil => exact absurd hs (splitOn_ne_nil sep t)
      | cons first pieces =>
          rw [hs] at ih
          by_cases hc : c = sep
          · rw [if_pos hc, join_cons_cons, ih, hc]
            rfl
          · rw [if_neg hc]
            cases pieces with
            | nil => exact congrArg (c :: ·) ih
            | cons second pieces =>
                rw [join_cons_cons] at ih ⊢
                exact congrArg (c :: ·) ih

theorem mem_join {sep : Text} {ts : List Text} {c : CodePoint} (h : c ∈ join sep ts) :
    c ∈ sep ∨ ∃ t ∈ ts, c ∈ t := by
  induction ts with
  | nil => simp at h
  | cons t ts ih =>
      cases ts with
      | nil => exact Or.inr ⟨t, by simp, h⟩
      | cons u ts =>
          rw [join_cons_cons, List.mem_append, List.mem_append] at h
          rcases h with (h | h) | h
          · exact Or.inr ⟨t, by simp, h⟩
          · exact Or.inl h
          · rcases ih h with h | ⟨v, hv, hc⟩
            · exact Or.inl h
            · exact Or.inr ⟨v, List.mem_cons_of_mem t hv, hc⟩

theorem mem_join_of_mem {sep t : Text} {ts : List Text} {c : CodePoint} (hc : c ∈ t) (ht : t ∈ ts) :
    c ∈ join sep ts := by
  induction ts with
  | nil => cases ht
  | cons u ts ih =>
      cases ts with
      | nil =>
          rw [List.mem_singleton.1 ht] at hc
          exact hc
      | cons v ts =>
          rw [join_cons_cons, List.mem_append, List.mem_append]
          rcases List.mem_cons.1 ht with rfl | ht
          · exact Or.inl (Or.inl hc)
          · exact Or.inr (ih ht)

/-- A piece holds code points of the text alone. -/
theorem mem_of_mem_splitOn {sep : CodePoint} {t piece : Text} {c : CodePoint} (h : piece ∈ splitOn sep t)
    (hc : c ∈ piece) : c ∈ t := by
  rw [← join_splitOn sep t]
  exact mem_join_of_mem hc h

/-! ## Starts and ends -/

theorem dropStart?_eq_some_iff {start t rest : Text} :
    dropStart? start t = some rest ↔ t = start ++ rest := by
  induction start generalizing t with
  | nil => simp [dropStart?, eq_comm]
  | cons a start ih =>
      cases t with
      | nil => simp [dropStart?]
      | cons b t =>
          rw [dropStart?]
          by_cases hab : a = b
          · subst hab
            simp [ih]
          · simp [hab, Ne.symm hab]

theorem startsWith_iff {t start : Text} : startsWith t start = true ↔ start <+: t := by
  unfold startsWith
  rw [Option.isSome_iff_exists]
  constructor
  · rintro ⟨rest, h⟩
    exact ⟨rest, (dropStart?_eq_some_iff.1 h).symm⟩
  · rintro ⟨rest, h⟩
    exact ⟨rest, dropStart?_eq_some_iff.2 h.symm⟩

/-- The rest of a text in front of its end, if that is the end given. -/
def dropEnd? (stop t : Text) : Option Text := (dropStart? stop.reverse t.reverse).map List.reverse

theorem dropEnd?_eq_some_iff {stop t rest : Text} : dropEnd? stop t = some rest ↔ t = rest ++ stop := by
  unfold dropEnd?
  rw [Option.map_eq_some_iff]
  constructor
  · rintro ⟨back, hback, rfl⟩
    have ht := congrArg List.reverse (dropStart?_eq_some_iff.1 hback)
    simpa using ht
  · rintro rfl
    refine ⟨rest.reverse, dropStart?_eq_some_iff.2 ?_, List.reverse_reverse rest⟩
    rw [List.reverse_append]

end StepForge.Text
