import StepForge.Proofs.Conversion.Index
import StepForge.Proofs.Naming.Camel

/-!
# `StepForge.Proofs.Conversion.Variables` — when an index declares each variable once

The file of a step is named by the words of its key with underscores between them, its variable by the same
words in camel case. So two steps can have files of their own and yet one variable. Categories do not
get in each other's way, since the last word of a variable names the category.

## Contents
- `stepFiles`, `declared` — the files of the steps, and the variables that an index declares.
- `stepVariable_eq_iff` — when two steps have one variable.
- `declared_nodup_iff` — when all variables are different.
-/

namespace StepForge.Conversion

/-- The files of the steps of an app. -/
def stepFiles (app : App) : List Text := app.stepList.map fun e => Generate.stepFileName e.1 e.2.1

/-- The variables that the lines of an index declare. -/
def declared (index : Text) : List Text := ((Text.splitOn '\n'.toNat index).filterMap readRequire).map (·.1)

/-- The category of a step and its key in camel case. -/
def stepCamel (e : Category × Text × Step) : Category × Text := (e.1, Naming.camelCase e.2.1)

/-- The category of a step and the words that are seen of its key in camel case. -/
def stepSeen (e : Category × Text × Step) : Category × List Text :=
  (e.1, Naming.seenWords (Naming.smallWords e.2.1))

/-- Two namings that tell the same things apart find the same lists without repetition. -/
theorem nodup_map_iff {α β γ : Type} {f : α → β} {g : α → γ} {l : List α}
    (h : ∀ a ∈ l, ∀ b ∈ l, f a = f b ↔ g a = g b) : (l.map f).Nodup ↔ (l.map g).Nodup := by
  unfold List.Nodup
  rw [List.pairwise_map, List.pairwise_map]
  exact List.Pairwise.iff_of_mem fun ha hb => not_congr (h _ ha _ hb)

/-- The variables of steps of different categories end in different letters. -/
theorem getLast?_stepVariable (key : Text) (c : Category) :
    (Generate.stepVariable key c.name).getLast? = c.name.getLast? := by
  have hname : (Naming.capitalize (Naming.camelCase c.name)).getLast? = c.name.getLast? := by
    cases c <;> decide +kernel
  unfold Generate.stepVariable
  rw [List.getLast?_append, hname]
  cases c <;> rfl

/-- **Two steps have one variable** exactly when they share the category and the key in camel case. -/
theorem stepVariable_eq_iff {c d : Category} {key other : Text} :
    Generate.stepVariable key c.name = Generate.stepVariable other d.name ↔
      c = d ∧ Naming.camelCase key = Naming.camelCase other := by
  constructor
  · intro h
    have hlast := congrArg List.getLast? h
    rw [getLast?_stepVariable, getLast?_stepVariable] at hlast
    have hcd : c = d := by
      revert hlast
      cases c <;> cases d <;> decide
    subst hcd
    exact ⟨rfl, List.append_cancel_right h⟩
  · rintro ⟨rfl, h⟩
    unfold Generate.stepVariable
    rw [h]

/-- **What an index declares** are the variables of the steps in order. -/
theorem declared_indexText (app : App) : declared (Template.indexText (Generate.indexModule app)) =
    app.stepList.map fun e => Generate.stepVariable e.2.1 e.1.name := by
  unfold declared
  rw [filterMap_readRequire_index, List.map_map]
  rfl

/-- **When an index declares each variable once.** Whatever the keys are, the variables that are declared are
those of the steps in order, and two steps have one variable exactly when they share the category and the key
in camel case; so no variable is declared twice exactly when no two steps share both. For keys in ASCII, and
all other clear ones, this can be said of the words: a word without a capital, such as a number, runs on from
the word in front of it, and then no two steps of a category may have the same words. If each word of
a key behind the first is told by a capital, files of their own are all that is needed. -/
theorem declared_nodup_iff (app : App) (settings : Settings) (t : Tree) :
    ∃ index, (Artifact.index.render app settings t Template.Library.standard).1 = .ok index ∧
      declared index = app.stepList.map (fun e => Generate.stepVariable e.2.1 e.1.name) ∧
      (∀ (c : Category) (key : Text) (d : Category) (other : Text),
        Generate.stepVariable key c.name = Generate.stepVariable other d.name ↔
          c = d ∧ Naming.camelCase key = Naming.camelCase other) ∧
      ((declared index).Nodup ↔ (app.stepList.map stepCamel).Nodup) ∧
      ((∀ e ∈ app.stepList, (∀ x ∈ e.2.1, x < 128) ∨ Naming.isClear e.2.1 = true) →
        ((declared index).Nodup ↔ (app.stepList.map stepSeen).Nodup)) ∧
      ((∀ e ∈ app.stepList, ∀ w ∈ (Naming.smallWords e.2.1).tail, Naming.isTold w = true) →
        ((declared index).Nodup ↔ (stepFiles app).Nodup)) := by
  have hdeclared := declared_indexText app
  have hcamel : (declared (Template.indexText (Generate.indexModule app))).Nodup ↔
      (app.stepList.map stepCamel).Nodup := by
    rw [hdeclared]
    refine nodup_map_iff fun e _ d _ => ?_
    rw [stepVariable_eq_iff, stepCamel, stepCamel, Prod.mk.injEq]
  have hseen : (∀ e ∈ app.stepList, Naming.isClear e.2.1 = true) →
      ((app.stepList.map stepCamel).Nodup ↔ (app.stepList.map stepSeen).Nodup) := by
    intro hclear
    refine nodup_map_iff fun e he d hd => ?_
    rw [stepCamel, stepCamel, stepSeen, stepSeen, Prod.mk.injEq, Prod.mk.injEq,
      Naming.camelCase_eq_iff (hclear e he) (hclear d hd)]
  refine ⟨_, index_render app settings t, hdeclared, fun _ _ _ _ => stepVariable_eq_iff, hcamel, ?_, ?_⟩
  · intro hkeys
    rw [hcamel]
    apply hseen
    intro e he
    rcases hkeys e he with hascii | hclear
    · exact Naming.isClear_of_ascii hascii
    · exact hclear
  · intro htold
    rw [hcamel, hseen fun e he => Naming.isClear_of_isTold (htold e he)]
    refine nodup_map_iff fun e he d hd => ?_
    rw [stepFileName_eq_iff, stepSeen, stepSeen, Prod.mk.injEq, Naming.seenWords_eq_self (htold e he),
      Naming.seenWords_eq_self (htold d hd)]

/-- Two steps whose keys have the same letters, and a blank in one of them. -/
def runningOn : App where
  title := []
  description := []
  triggers := [("日 本", ⟨"日 本", [], []⟩), ("日本", ⟨"日本", [], []⟩)]
  searches := []
  actions := []

/-- Two steps have files of their own, and their index declares one variable twice. -/
theorem declared_twice :
    ∃ index, (Artifact.index.render runningOn {} Tree.empty Template.Library.standard).1 = .ok index ∧
      (stepFiles runningOn).Nodup ∧ ¬ (declared index).Nodup := by
  obtain ⟨index, hindex, _, _, hcamel, _⟩ := declared_nodup_iff runningOn {} Tree.empty
  have hfiles : (stepFiles runningOn).Nodup := by decide +kernel
  have htwice : ¬ (runningOn.stepList.map stepCamel).Nodup := by decide +kernel
  exact ⟨index, hindex, hfiles, fun h => htwice (hcamel.1 h)⟩

end StepForge.Conversion
