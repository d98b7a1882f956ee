import StepForge.Conversion.Plan
import StepForge.Proofs.Template.Library

/-!
# `StepForge.Proofs.Conversion.Engine` — templates of any engine

Whatever compiles and renders templates, a store is changed by loading alone: a text is made of a template that was
loaded, and fails after that without a trace. So all that is said of loading holds of filling, too.

## Contents
- `load_of_ok`, `load_of_error` — loading, with the fault as it is reported.
- `fill_eq`, `fillNamed_eq` — filling as loading first.
- `load_store`, `fill_store` — what is left behind.
- `fill_eq_ok_iff` — a template of a library that is filled.
-/

namespace StepForge.Conversion

open Template

namespace Engine

variable {α : Type} {engine : Engine α} {t : Tree} {l : Store α} {name : Text}

theorem load_of_ok {a : α} {after : Store α} (h : l.load engine.compile t name = .ok (a, after)) :
    engine.load t l name = (.ok a, after) := by
  unfold load
  rw [h]

theorem load_of_error {f : LoadFault} (h : l.load engine.compile t name = .error f) :
    engine.load t l name = (.error (loadFault f), l) := by
  unfold load
  rw [h]

/-- Behind loading the store is as it was, or has read the template. -/
theorem load_store (engine : Engine α) (t : Tree) (l : Store α) (name : Text) :
    (engine.load t l name).2 = l ∨
      ∃ a, l.load engine.compile t name = .ok (a, (engine.load t l name).2) := by
  cases hload : l.load engine.compile t name with
  | error f => exact Or.inl (by rw [load_of_error hload])
  | ok found => exact Or.inr ⟨found.1, by rw [load_of_ok hload]⟩

theorem home_load (engine : Engine α) (t : Tree) (l : Store α) (name : Text) :
    (engine.load t l name).2.home = l.home := by
  rcases load_store engine t l name with hsame | ⟨a, hload⟩
  · rw [hsame]
  · exact Store.home_of_load hload

/-- **A text is made** of the template that its name loads, and of nothing else but values and further sources. -/
theorem fill_eq (engine : Engine α) (t : Tree) (l : Store α) (name : Text) (values : Bindings) :
    engine.fill t l name values =
      ((engine.load t l name).1.bind fun a => engine.render a (l.home.source t) values,
        (engine.load t l name).2) := by
  have hhome := home_load engine t l name
  unfold fill
  generalize engine.load t l name = r at hhome ⊢
  obtain ⟨r, after⟩ := r
  show (_, after) = (_, after)
  rw [← hhome]

/-- Behind filling the store is as it was, or has read the template. -/
theorem fill_store (engine : Engine α) (t : Tree) (l : Store α) (name : Text) (values : Bindings) :
    (engine.fill t l name values).2 = l ∨
      ∃ a, l.load engine.compile t name = .ok (a, (engine.fill t l name values).2) := by
  rw [fill_eq]
  exact load_store engine t l name

/-- The same for a name that may be any value. -/
theorem fillNamed_eq (engine : Engine α) (t : Tree) (l : Store α) (name values : Value) :
    engine.fillNamed t l name values =
      ((engine.loadNamed t l name).1.bind fun a => engine.rendered (l.home.source t) a values,
        (engine.loadNamed t l name).2) := by
  have hhome : (engine.loadNamed t l name).2.home = l.home := by
    unfold loadNamed
    cases lookupName name with
    | error f => rfl
    | ok n => exact home_load engine t l n
  unfold fillNamed
  generalize engine.loadNamed t l name = r at hhome ⊢
  obtain ⟨r, after⟩ := r
  show (_, after) = (_, after)
  rw [← hhome]

end Engine

/-! ## Libraries -/

variable {t : Tree} {l : Library} {name text : Text} {values : Bindings}

/-- A template of a library is filled out of what the library gives. -/
theorem fill_eq_ok_iff :
    (nodeEngine.fill t l name values).1 = .ok text ↔
      ∃ nodes, l.Gives t name nodes ∧ render nodes values = .ok text := by
  rw [Engine.fill_eq]
  constructor
  · intro h
    cases hload : Store.load l nodeEngine.compile t name with
    | error f =>
        rw [Engine.load_of_error hload] at h
        cases h
    | ok found =>
        obtain ⟨nodes, after⟩ := found
        rw [Engine.load_of_ok hload] at h
        exact ⟨nodes, ⟨after, hload⟩, mapError_eq_ok_iff.1 h⟩
  · rintro ⟨nodes, ⟨after, hload⟩, hrender⟩
    have hload : Store.load l nodeEngine.compile t name = .ok (nodes, after) := hload
    rw [Engine.load_of_ok hload]
    exact mapError_eq_ok_iff.2 hrender

end StepForge.Conversion
