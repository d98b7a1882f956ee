import Mathlib.Data.List.Basic
import StepForge.Conversion.Run
import StepForge.Proofs.Conversion.Places
import StepForge.Proofs.Definition.Keys
import StepForge.Proofs.Results
import StepForge.Proofs.Text.Order

/-!
# `StepForge.Proofs.Conversion.Collecting` — finished tasks, collected one by one

Paths are put under the names of their files, so of several tasks of one name the last is kept. The first
failure ends the collecting: its error names the file and the names that were collected before it.

## Contents
- `lookup_collect`, `paths_collect` — tasks that all ended well.
- `collect_front` — tasks that ended well, in front of others.
- `exists_first_failure`, `collect_of_failure` — the first task that failed.
- `exists_collect_eq_ok_iff`, `collect_eq_error` — when collecting ends well, and what it fails with.
-/

namespace StepForge.Conversion

/-! ## Tasks that all ended well -/

/-- **Tasks that ended well are all found among the collected paths**, in whatever order they are handed
back, if tasks of one name have one path. -/
theorem lookup_collect (path : Text → Path) {outcomes : List Outcome}
    (h : ∀ o ∈ outcomes, o.2 = .ok (path o.1)) (done : List (Text × Path)) :
    ∃ written, collect done outcomes = .ok written ∧
      ∀ name, written.lookup name =
        if name ∈ outcomes.map (·.1) then some (path name) else done.lookup name := by
  induction outcomes generalizing done with
  | nil => exact ⟨done, rfl, fun name => by simp⟩
  | cons o outcomes ih =>
      obtain ⟨name, result⟩ := o
      have hresult : result = .ok (path name) := h (name, result) (by simp)
      subst hresult
      obtain ⟨written, hwritten, hlookup⟩ :=
        ih (fun o ho => h o (List.mem_cons_of_mem _ ho)) (putKey name (path name) done)
      refine ⟨written, hwritten, ?_⟩
      intro other
      rw [hlookup, lookup_putKey]
      by_cases hother : other = name
      · subst hother
        simp
      · simp only [List.map_cons, List.mem_cons, hother, false_or, if_false]

/-- The paths of some tasks, found among what was collected of tasks that ended well. -/
theorem paths_collect {out : Path} {tasks : List Task} {outcomes : List Outcome}
    (h : ∀ o ∈ outcomes, o.2 = .ok (out / o.1)) (hnames : ∀ task ∈ tasks, task.fileName ∈ outcomes.map (·.1)) :
    ∃ written, collect [] outcomes = .ok written ∧
      tasks.filterMap (fun task => written.lookup task.fileName) = tasks.map (Task.path out) := by
  obtain ⟨written, hwritten, hlookup⟩ := lookup_collect (fun name => out / name) h []
  refine ⟨written, hwritten, ?_⟩
  rw [← List.filterMap_eq_map]
  apply List.filterMap_congr
  intro task htask
  rw [hlookup, if_pos (hnames task htask)]
  rfl

/-! ## The first failure -/

/-- Whether a task ended well. -/
def Good (o : Outcome) : Prop := ∃ p, o.2 = .ok p

/-- **Good tasks in front** are collected, each name once. -/
theorem collect_front {front : List Outcome} (hfront : ∀ o ∈ front, Good o) (done : List (Text × Path))
    (hdone : (done.map Prod.fst).Nodup) :
    ∃ kept, (∀ rest, collect done (front ++ rest) = collect kept rest) ∧ (kept.map Prod.fst).Nodup ∧
      ∀ name, name ∈ kept.map Prod.fst ↔ name ∈ front.map Prod.fst ∨ name ∈ done.map Prod.fst := by
  induction front generalizing done with
  | nil => exact ⟨done, fun _ => rfl, hdone, fun name => by simp⟩
  | cons o front ih =>
      obtain ⟨name, result⟩ := o
      obtain ⟨p, hp⟩ := hfront (name, result) List.mem_cons_self
      have hresult : result = .ok p := hp
      subst hresult
      obtain ⟨kept, hkept, hnodup, hnames⟩ :=
        ih (fun o ho => hfront o (List.mem_cons_of_mem _ ho)) (putKey name p done) (nodup_keys_putKey hdone)
      refine ⟨kept, fun rest => hkept rest, hnodup, ?_⟩
      intro other
      rw [hnames, mem_keys_putKey, List.map_cons, List.mem_cons, or_left_comm, or_assoc]

/-- All tasks ended well, or one of them is the first that did not. -/
theorem exists_first_failure (outcomes : List Outcome) :
    (∀ o ∈ outcomes, Good o) ∨
      ∃ front name cause rest, outcomes = front ++ (name, .error cause) :: rest ∧ ∀ o ∈ front, Good o := by
  induction outcomes with
  | nil => exact Or.inl fun o ho => by simp at ho
  | cons o outcomes ih =>
      obtain ⟨name, result⟩ := o
      cases result with
      | error cause => exact Or.inr ⟨[], name, cause, outcomes, rfl, fun o ho => by simp at ho⟩
      | ok p =>
          have hgood : Good (name, .ok p) := ⟨p, rfl⟩
          rcases ih with hall | ⟨front, other, cause, rest, rfl, hfront⟩
          · exact Or.inl (List.forall_mem_cons.2 ⟨hgood, hall⟩)
          · exact Or.inr ⟨(name, .ok p) :: front, other, cause, rest, rfl,
              List.forall_mem_cons.2 ⟨hgood, hfront⟩⟩

/-- **The first failure is the error**, with the names in front of it, strictly ascending. -/
theorem collect_of_failure {front : List Outcome} (hfront : ∀ o ∈ front, Good o) (name : Text) (cause : Fault)
    (rest : List Outcome) :
    ∃ written, collect [] (front ++ (name, .error cause) :: rest) = .error (.conversion (.str name) cause written) ∧
      written.Pairwise (· < ·) ∧ ∀ other, other ∈ written ↔ other ∈ front.map Prod.fst := by
  obtain ⟨kept, hkept, hnodup, hnames⟩ := collect_front hfront [] List.nodup_nil
  refine ⟨Text.sort (kept.map Prod.fst), ?_, Text.pairwise_sort hnodup, ?_⟩
  · rw [hkept]
    rfl
  · intro other
    rw [Text.mem_sort, hnames]
    simp

/-- **Collecting ends well** exactly when all tasks did. -/
theorem exists_collect_eq_ok_iff {outcomes : List Outcome} :
    (∃ kept, collect [] outcomes = .ok kept) ↔ ∀ o ∈ outcomes, Good o := by
  constructor
  · rintro ⟨kept, hkept⟩
    rcases exists_first_failure outcomes with hall | ⟨front, name, cause, rest, rfl, hfront⟩
    · exact hall
    · obtain ⟨written, hwritten, _⟩ := collect_of_failure hfront name cause rest
      rw [hkept] at hwritten
      cases hwritten
  · intro hall
    obtain ⟨kept, hkept, _⟩ := collect_front hall [] List.nodup_nil
    refine ⟨kept, ?_⟩
    rw [← List.append_nil outcomes, hkept]
    rfl

/-- **Collecting fails** with the first failure, and with nothing else. -/
theorem collect_eq_error {outcomes : List Outcome} {failure : Fault} (h : collect [] outcomes = .error failure) :
    ∃ front name cause rest written, outcomes = front ++ (name, .error cause) :: rest ∧
      (∀ o ∈ front, Good o) ∧ failure = .conversion (.str name) cause written ∧
      written.Pairwise (· < ·) ∧ ∀ other, other ∈ written ↔ other ∈ front.map Prod.fst := by
  rcases exists_first_failure outcomes with hall | ⟨front, name, cause, rest, rfl, hfront⟩
  · obtain ⟨kept, hkept⟩ := exists_collect_eq_ok_iff.2 hall
    rw [h] at hkept
    cases hkept
  · obtain ⟨written, hwritten, hascending, hnames⟩ :=
      collect_of_failure hfront name cause rest
    rw [h] at hwritten
    exact ⟨front, name, cause, rest, written, rfl, hfront, Except.error.inj hwritten, hascending, hnames⟩

end StepForge.Conversion
