import StepForge.Proofs.Conversion.Places

/-!
# `StepForge.Proofs.Conversion.Sharing` — steps that share a file

Snake and kebab case keep the words of a key apart, letter case aside, and camel case is made of the same words. So
the words of a key decide about all that is named by it: its file, the path of its module, the key in the module and
the variable in the index.

## Contents
- `fileName_of_mem_plan`, `stepModule_names` — how the file of a step and its module are named.
- `steps_share_file_iff` — when two names, and two files of steps, are the same.
-/

namespace StepForge

namespace Generate

/-- A module is named by the words of its key. -/
theorem stepModule_names {least : Value} {key : Text} {s : Step} {m : StepModule}
    (h : stepModule least (.str key) s = .ok m) : m.key = Naming.snakeCase key ∧ m.camel = Naming.camelCase key := by
  unfold stepModule at h
  cases hfields : s.fields.mapM fun f => fieldLiteral least (.str f.key) f with
  | error f =>
      rw [hfields] at h
      cases h
  | ok fields =>
      rw [hfields] at h
      cases hsample : moduleSample s.samples with
      | error f =>
          rw [hsample] at h
          cases h
      | ok sample =>
          rw [hsample] at h
          cases h
          exact ⟨rfl, rfl⟩

end Generate

namespace Conversion

open Generate Naming

/-- A step is planned under the name that its category and its key give. -/
theorem fileName_of_mem_plan {app : App} {file : Text} {c : Category} {key : Text} {s : Step}
    (h : ⟨file, .step c key s⟩ ∈ plan app) : file = stepFileName c key := by
  rcases mem_plan.1 h with ⟨_, _, _, _, heq⟩ | heq | heq
  · cases heq
    rfl
  · cases heq
  · cases heq

/-- **When names and files are shared.** For every two texts the names in snake case are the same exactly when the
words are, letter case aside, and exactly then those in kebab case are; then those in camel case are the same too. Two
steps of an app are planned under one name exactly when they have the same category and their keys the same words, and
then they also share the path of the module, the key in the module and the variable in the index. -/
theorem steps_share_file_iff :
    (∀ a b : Text, (snakeCase a = snakeCase b ↔ smallWords a = smallWords b) ∧
      (smallWords a = smallWords b ↔ kebabCase a = kebabCase b) ∧
      (smallWords a = smallWords b → camelCase a = camelCase b)) ∧
    ∀ (app : App) (file other : Text) (c d : Category) (key key' : Text) (s s' : Step),
      ⟨file, .step c key s⟩ ∈ plan app → ⟨other, .step d key' s'⟩ ∈ plan app →
        (file = other ↔ c = d ∧ smallWords key = smallWords key') ∧
        (file = other → stepModulePath c key = stepModulePath d key' ∧
          stepVariable key c.name = stepVariable key' d.name ∧
          ∀ least m m', stepModule least (.str key) s = .ok m → stepModule least (.str key') s' = .ok m' →
            m.key = m'.key ∧ m.camel = m'.camel) := by
  refine ⟨fun a b => ⟨snakeCase_eq_iff a b, (kebabCase_eq_iff a b).symm, camelCase_congr⟩, ?_⟩
  intro app file other c d key key' s s' h h'
  rw [fileName_of_mem_plan h, fileName_of_mem_plan h']
  refine ⟨stepFileName_eq_iff, fun hsame => ?_⟩
  obtain ⟨rfl, hwords⟩ := stepFileName_eq_iff.1 hsame
  have hsnake := (snakeCase_eq_iff key key').2 hwords
  have hcamel := camelCase_congr hwords
  refine ⟨?_, ?_, ?_⟩
  · rw [stepModulePath, stepModulePath, hsnake]
  · rw [stepVariable, stepVariable, hcamel]
  · intro least m m' hm hm'
    obtain ⟨hkey, hname⟩ := stepModule_names hm
    obtain ⟨hkey', hname'⟩ := stepModule_names hm'
    exact ⟨by rw [hkey, hkey', hsnake], by rw [hname, hname', hcamel]⟩

/-- Two spellings of one key, and a third step of another category under the same key. -/
def spellings : App where
  title := []
  description := []
  triggers := [("newContact", ⟨"newContact", [], []⟩), ("New contact!", ⟨"New contact!", [], []⟩)]
  searches := [("newContact", ⟨"newContact", [], []⟩)]
  actions := []

/-- The two spellings share all names, and the third step has a file of its own. -/
theorem spellings_share :
    (⟨"triggers/new_contact.js", .step .trigger "newContact" ⟨"newContact", [], []⟩⟩ : Task) ∈ plan spellings ∧
      (⟨"triggers/new_contact.js", .step .trigger "New contact!" ⟨"New contact!", [], []⟩⟩ : Task) ∈ plan spellings ∧
      (⟨"searches/new_contact.js", .step .search "newContact" ⟨"newContact", [], []⟩⟩ : Task) ∈ plan spellings ∧
      snakeCase "newContact" = snakeCase "New contact!" ∧
      stepVariable "newContact" Category.trigger.name = stepVariable "New contact!" Category.trigger.name ∧
      ¬ (Category.trigger = .search ∧ smallWords "newContact" = smallWords "newContact") := by
  have hplanned : ∀ (file key : Text) (c : Category) (s : Step), (c, key, s) ∈ spellings.stepList →
      file = stepFileName c key → (⟨file, .step c key s⟩ : Task) ∈ plan spellings := by
    rintro _ key c s hmem rfl
    exact mem_plan.2 (Or.inl ⟨c, key, s, hmem, rfl⟩)
  have hfirst := hplanned "triggers/new_contact.js" "newContact" .trigger ⟨"newContact", [], []⟩
    (by simp [App.stepList, Category.all, App.steps, spellings]) (by decide +kernel)
  have hsecond := hplanned "triggers/new_contact.js" "New contact!" .trigger ⟨"New contact!", [], []⟩
    (by simp [App.stepList, Category.all, App.steps, spellings]) (by decide +kernel)
  have hthird := hplanned "searches/new_contact.js" "newContact" .search ⟨"newContact", [], []⟩
    (by simp [App.stepList, Category.all, App.steps, spellings]) (by decide +kernel)
  obtain ⟨hnames, hsteps⟩ := steps_share_file_iff
  obtain ⟨hwords, hshared⟩ := hsteps spellings _ _ _ _ _ _ _ _ hfirst hsecond
  obtain ⟨hother, _⟩ := hsteps spellings _ _ _ _ _ _ _ _ hfirst hthird
  refine ⟨hfirst, hsecond, hthird, (hnames _ _).1.2 (hwords.1 rfl).2, (hshared rfl).2.1, fun h => ?_⟩
  exact absurd (hother.2 h) (by decide)

end Conversion
end StepForge
