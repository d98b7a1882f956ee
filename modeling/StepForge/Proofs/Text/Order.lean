import Mathlib.Data.List.Induction
import Mathlib.Data.List.Lex
import StepForge.Text.Basic

/-!
# `StepForge.Proofs.Text.Order` — sorted texts

`Text.before` is the order of lists of numbers by the first place at which they differ. So a sorted list holds what
it was made of and is ascending, strictly if nothing is in it twice.

## Contents
- `before_iff` — the order of texts.
- `perm_sortBy`, `pairwise_sortBy` — sorting by a key.
- `pairwise_sort` — sorting different texts.
-/

namespace StepForge.Text

/-- The first code points in which two texts differ tell which one comes first. -/
theorem before_iff {s t : Text} : before s t = true ↔ s < t := by
  induction s generalizing t with
  | nil =>
      cases t with
      | nil => simp [before]
      | cons b t => simp [before]
  | cons a s ih =>
      cases t with
      | nil => simp [before]
      | cons b t =>
          rw [before, List.cons_lt_cons_iff, Bool.or_eq_true, Bool.and_eq_true, ih]
          simp

variable {α : Type} (key : α → Text)

theorem perm_insertSorted (x : α) (xs : List α) : (insertSorted key x xs).Perm (x :: xs) := by
  induction xs with
  | nil => exact List.Perm.refl _
  | cons y ys ih =>
      rw [insertSorted]
      split
      · exact List.Perm.refl _
      · exact (ih.cons y).trans (List.Perm.swap x y ys)

/-- An element is put behind all that do not come later, so an ascending list stays ascending. -/
theorem pairwise_insertSorted (x : α) {xs : List α} (h : xs.Pairwise fun a b => key a ≤ key b) :
    (insertSorted key x xs).Pairwise fun a b => key a ≤ key b := by
  induction xs with
  | nil => exact List.pairwise_singleton _ x
  | cons y ys ih =>
      obtain ⟨hy, hys⟩ := List.pairwise_cons.1 h
      rw [insertSorted]
      by_cases hxy : before (key x) (key y) = true
      · have hle : key x ≤ key y := (before_iff.1 hxy).le
        rw [if_pos hxy, List.pairwise_cons]
        refine ⟨?_, h⟩
        intro z hz
        rcases List.mem_cons.1 hz with rfl | hz
        · exact hle
        · exact hle.trans (hy z hz)
      · have hle : key y ≤ key x := not_lt.1 fun hlt => hxy (before_iff.2 hlt)
        rw [if_neg hxy, List.pairwise_cons]
        refine ⟨?_, ih hys⟩
        intro z hz
        rcases List.mem_cons.1 ((perm_insertSorted key x ys).mem_iff.1 hz) with rfl | hz
        · exact hle
        · exact hy z hz

theorem sortBy_concat (xs : List α) (x : α) : sortBy key (xs ++ [x]) = insertSorted key x (sortBy key xs) := by
  unfold sortBy
  rw [List.foldl_append]
  rfl

/-- Sorting keeps all elements. -/
theorem perm_sortBy (xs : List α) : (sortBy key xs).Perm xs := by
  induction xs using List.reverseRecOn with
  | nil => exact List.Perm.refl _
  | append_singleton xs x ih =>
      rw [sortBy_concat]
      exact ((perm_insertSorted key x _).trans (ih.cons x)).trans (List.perm_append_singleton x xs).symm

/-- **What is sorted is ascending.** -/
theorem pairwise_sortBy (xs : List α) : (sortBy key xs).Pairwise fun a b => key a ≤ key b := by
  induction xs using List.reverseRecOn with
  | nil => exact List.Pairwise.nil
  | append_singleton xs x ih =>
      rw [sortBy_concat]
      exact pairwise_insertSorted key x ih

theorem mem_sort {ts : List Text} {t : Text} : t ∈ sort ts ↔ t ∈ ts := (perm_sortBy id ts).mem_iff

/-- **Different texts are sorted strictly.** -/
theorem pairwise_sort {ts : List Text} (h : ts.Nodup) : (sort ts).Pairwise (· < ·) := by
  have hnodup : (sort ts).Nodup := (perm_sortBy id ts).nodup_iff.2 h
  exact (pairwise_sortBy id ts).imp₂ (fun _ _ hle hne => lt_of_le_of_ne hle hne) hnodup

end StepForge.Text
