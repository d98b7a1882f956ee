import Mathlib.Data.List.Forall2
import Mathlib.Data.List.Perm.Basic
import StepForge.Proofs.Conversion.Rendering
import StepForge.Proofs.Definition.Keys

/-!
# `StepForge.Proofs.Conversion.Locality` — what the text of a file depends on

All files are rendered with one library, which keeps the templates that it read. It does not matter for a
text what was rendered before: a library only ever knows what it would read again. So a file says what its
own part of the app says. A step file depends on its step alone, the index on the keys of all steps, and the
manifest on title and description.

## Contents
- `SameTemplates`, `sameTemplates_bundled` — trees with the same templates.
- `Reached`, `Sees` — libraries in use, and what they know.
- `Artifact.textOf`, `render_eq` — the text of a file, whatever was rendered before.
- `stepTasks`, `ChangedAt`, `forall₂_plan`, `perm_stepTasks` — plans side by side.
- `StepChange`, `StepChange.changedAt` — definitions that differ in the body of one step.
- `files_are_local` — what each file of two runs depends on.
-/

namespace StepForge.Conversion

open Template

/-! ## Libraries in use -/

/-- Two trees in which a home has the same templates for planned files. -/
def SameTemplates (home : Home) (t u : Tree) : Prop :=
  ∀ a : Artifact, (Library.ofHome home).readFile t a.template = (Library.ofHome home).readFile u a.template

/-- Bundled templates are the same in all trees. -/
theorem sameTemplates_bundled (t u : Tree) : SameTemplates .bundled t u :=
  fun a => Library.readFile_standard a.template_relative t u

/-- A library that was used for any files of any apps, while the templates were those of one tree. -/
inductive Reached (home : Home) (t : Tree) : Library → Prop
  | start : Reached home t (.ofHome home)
  | render {l : Library} (h : Reached home t l) {u : Tree} (hsame : SameTemplates home t u) (app : App)
      (settings : Settings) (a : Artifact) : Reached home t (a.render app settings u l).2

/-- A library that knows of the templates of planned files nothing but what stands in a tree. -/
structure Sees (home : Home) (t : Tree) (l : Library) : Prop where
  origin : l.home = home
  known : ∀ (a : Artifact) nodes, l.known.lookup a.template = some nodes →
    (Library.ofHome home).readFile t a.template = .ok nodes

namespace Sees

variable {home : Home} {t u : Tree} {l after : Library} {nodes : List Node}

theorem start (home : Home) (t : Tree) : Sees home t (.ofHome home) := ⟨rfl, nofun⟩

theorem readFile_eq (h : Sees home t l) (u : Tree) (name : Text) :
    l.readFile u name = (Library.ofHome home).readFile u name :=
  Library.readFile_congr (l := .ofHome home) h.origin u name

/-- **What is given is what would be read**, faults included. -/
theorem load_eq (h : Sees home t l) (a : Artifact) :
    (l.load t a.template).map (·.1) = (Library.ofHome home).readFile t a.template := by
  cases hknown : l.known.lookup a.template with
  | some nodes =>
      rw [h.known a nodes hknown, Library.load, Store.load_eq_ok_iff.2 (Or.inl ⟨hknown, rfl⟩)]
      rfl
  | none =>
      rw [← h.readFile_eq t a.template]
      unfold Library.load Store.load Library.readFile
      rw [hknown]
      cases l.home.template nodesOf t a.template <;> rfl

/-- One more template. -/
theorem load (h : Sees home t l) (hsame : SameTemplates home t u) {a : Artifact}
    (hload : l.load u a.template = .ok (nodes, after)) : Sees home t after := by
  refine ⟨(Store.home_of_load hload).trans h.origin, ?_⟩
  intro b found hfound
  by_cases hname : b.template = a.template
  · rw [hname, Store.lookup_of_load hload] at hfound
    cases hfound
    rw [hname]
    rcases Store.load_eq_ok_iff.1 hload with ⟨hknown, -⟩ | ⟨-, hread, -⟩
    · exact h.known a nodes hknown
    · rw [hsame a, ← h.readFile_eq u a.template]
      exact hread
  · rw [Store.lookup_of_load_ne hload hname] at hfound
    exact h.known b found hfound

end Sees

/-- **A library in use knows nothing but what it would read again.** -/
theorem Reached.sees {home : Home} {t : Tree} {l : Library} (h : Reached home t l) : Sees home t l := by
  induction h with
  | start => exact .start home t
  | @render l h u hsame app settings a ih =>
      unfold Artifact.render fillWith Engine.fillWith
      cases a.bindings app settings with
      | error fault => exact ih
      | ok values =>
          show Sees home t (nodeEngine.fill u l a.template values).2
          -- Filling leaves the library as it is, or with the one template that was read.
          rcases Engine.fill_store nodeEngine u l a.template values with hkept | ⟨nodes, hload⟩
          · rw [hkept]
            exact ih
          · exact ih.load hsame hload

/-! ## The text of a file -/

/-- The text of a file, rendered with the template as it stands in a tree. -/
def Artifact.textOf (home : Home) (t : Tree) (app : App) (settings : Settings) (a : Artifact) : Except Fault Text :=
  match a.bindings app settings with
  | .error f => .error (.value f)
  | .ok values => match (Library.ofHome home).readFile t a.template with
    | .error f => .error (loadFault f)
    | .ok nodes => (Template.render nodes values).mapError .rendering

/-- **It does not matter what was rendered before.** -/
theorem render_eq {home : Home} {t : Tree} {l : Library} (h : Reached home t l) (app : App) (settings : Settings)
    (a : Artifact) : (a.render app settings t l).1 = a.textOf home t app settings := by
  have hload := h.sees.load_eq a
  unfold Artifact.render fillWith Engine.fillWith Artifact.textOf
  rw [← hload]
  cases a.bindings app settings with
  | error fault => rfl
  | ok values =>
      show (nodeEngine.fill t l a.template values).1 = _
      rw [Engine.fill_eq]
      cases hfound : l.load t a.template with
      | error fault =>
          have hload : Store.load l nodeEngine.compile t a.template = .error fault := hfound
          rw [Engine.load_of_error hload]
          rfl
      | ok found =>
          have hload : Store.load l nodeEngine.compile t a.template = .ok found := hfound
          rw [Engine.load_of_ok hload]
          rfl

/-- The text of a file depends on the values of its template, and on the template. -/
theorem textOf_congr {home : Home} {t u : Tree} (hsame : SameTemplates home t u) {app other : App}
    {settings given : Settings} {a : Artifact} (h : a.bindings app settings = a.bindings other given) :
    a.textOf home t app settings = a.textOf home u other given := by
  unfold Artifact.textOf
  rw [h, hsame a]

/-- The keys of all steps, by category and in order. -/
def SameKeys (app other : App) : Prop := ∀ c, (app.steps c).map Prod.fst = (other.steps c).map Prod.fst

/-- The index depends on the keys of the steps. -/
theorem indexModule_congr {app other : App} (h : SameKeys app other) :
    Generate.indexModule app = Generate.indexModule other := by
  have hlines : ∀ (line : Category → Text → Text) (c : Category),
      (app.steps c).map (fun e => line c e.1) = (other.steps c).map (fun e => line c e.1) := by
    intro line c
    have hkeys := congrArg (List.map (line c)) (h c)
    rw [List.map_map, List.map_map] at hkeys
    exact hkeys
  have hregister : ∀ c, Generate.registerLines app c = Generate.registerLines other c := by
    intro c
    rw [Generate.registerLines, hlines, Generate.registerLines]
  unfold Generate.indexModule
  simp only [hlines, hregister]

/-! ## Plans side by side -/

/-- The tasks for the steps of an app. -/
def stepTasks (app : App) : List Task :=
  app.stepList.map fun (c, key, s) => ⟨Generate.stepFileName c key, .step c key s⟩

/-- The tasks that every app has. -/
def fixedTasks : List Task := [⟨"index.js", .index⟩, ⟨"package.json", .manifest⟩]

theorem plan_eq (app : App) : plan app = stepTasks app ++ fixedTasks := rfl

/-- Entries under one key in one category, and with one body unless the key is that of a change. -/
def ChangedAt {α : Type} (c : Category) (key : Text) (d : Category) (e f : Text × α) : Prop :=
  e.1 = f.1 ∧ ((d, e.1) ≠ (c, key) → e.2 = f.2)

/-- Tasks for one file, and with one content unless it is the step of a change. -/
def SameTask (c : Category) (key : Text) (a b : Task) : Prop :=
  a.fileName = b.fileName ∧ ((∃ s, a.artifact = .step c key s) ∨ a.artifact = b.artifact)

theorem sameKeys_of_changedAt {app other : App} {c : Category} {key : Text}
    (h : ∀ d, List.Forall₂ (ChangedAt c key d) (app.steps d) (other.steps d)) : SameKeys app other := by
  intro d
  have hkeys : List.Forall₂ (· = ·) ((app.steps d).map Prod.fst) ((other.steps d).map Prod.fst) := by
    rw [List.forall₂_map_left_iff, List.forall₂_map_right_iff]
    exact (h d).imp fun _ _ he => he.1
  exact List.forall₂_eq_eq_eq ▸ hkeys

theorem forall₂_flatMap {α β γ : Type} {R : β → γ → Prop} {f : α → List β} {g : α → List γ} {xs : List α}
    (h : ∀ x ∈ xs, List.Forall₂ R (f x) (g x)) : List.Forall₂ R (xs.flatMap f) (xs.flatMap g) := by
  induction xs with
  | nil => exact .nil
  | cons x xs ih =>
      exact List.rel_append (h x (by simp)) (ih fun y hy => h y (List.mem_cons_of_mem x hy))

/-- **Plans of apps that differ in the body of one step** have the same files in the same order. -/
theorem forall₂_plan {app other : App} {c : Category} {key : Text}
    (h : ∀ d, List.Forall₂ (ChangedAt c key d) (app.steps d) (other.steps d)) :
    List.Forall₂ (SameTask c key) (plan app) (plan other) := by
  have hfixed : List.Forall₂ (SameTask c key) fixedTasks fixedTasks :=
    List.forall₂_same.2 fun _ _ => ⟨rfl, Or.inr rfl⟩
  have hsteps : List.Forall₂ (SameTask c key) (stepTasks app) (stepTasks other) := by
    unfold stepTasks App.stepList
    rw [List.map_flatMap, List.map_flatMap]
    refine forall₂_flatMap fun d _ => ?_
    rw [List.map_map, List.map_map, List.forall₂_map_left_iff, List.forall₂_map_right_iff]
    refine (h d).imp ?_
    rintro ⟨k, s⟩ ⟨_, u⟩ ⟨rfl, hbody⟩
    refine ⟨rfl, ?_⟩
    -- Only a task under the changed key may have another step.
    by_cases hkey : (d, k) = (c, key)
    · obtain ⟨rfl, rfl⟩ := Prod.mk.inj hkey
      exact Or.inl ⟨s, rfl⟩
    · obtain rfl : s = u := hbody hkey
      exact Or.inr rfl
  exact List.rel_append hsteps hfixed

/-- **Steps that are put in another order** put their tasks in another order. -/
theorem perm_stepTasks {app other : App} (h : ∀ c, (app.steps c).Perm (other.steps c)) :
    (stepTasks app).Perm (stepTasks other) :=
  (List.Perm.flatMap_left _ fun c _ => (h c).map _).map _

/-! ## Definitions that differ in one step -/

/-- Definitions that differ at most in the bodies of the steps of a category under a key. -/
structure StepChange (c : Category) (key : Text) (v w : Value) : Prop where
  general : v.member "general" = w.member "general"
  steps : ∀ d : Category, List.Forall₂ (ChangedAt c key d) (keyedEntries (v.member d.collection))
    (keyedEntries (w.member d.collection))

theorem forall₂_putKey {α : Type} {c d : Category} {key k : Text} {x y : α} {es fs : List (Text × α)}
    (h : List.Forall₂ (ChangedAt c key d) es fs) (hbody : (d, k) ≠ (c, key) → x = y) :
    List.Forall₂ (ChangedAt c key d) (putKey k x es) (putKey k y fs) := by
  induction h with
  | nil => exact .cons ⟨rfl, hbody⟩ .nil
  | @cons e f es fs he h ih =>
      obtain ⟨name, old⟩ := e
      obtain ⟨other, old'⟩ := f
      obtain ⟨rfl, hold⟩ := he
      rw [putKey, putKey]
      split
      · rename_i hname
        exact .cons ⟨rfl, fun hne => hbody (hname ▸ hne)⟩ h
      · exact .cons ⟨rfl, hold⟩ ih

theorem forall₂_byKey {α : Type} {c d : Category} {key : Text} {es fs : List (Text × α)}
    (h : List.Forall₂ (ChangedAt c key d) es fs) :
    List.Forall₂ (ChangedAt c key d) (byKey es) (byKey fs) := by
  -- The two folds stay side by side from any two beginnings that are.
  have hfold : ∀ {done made : List (Text × α)}, List.Forall₂ (ChangedAt c key d) done made →
      List.Forall₂ (ChangedAt c key d) (es.foldl (fun done e => putKey e.1 e.2 done) done)
        (fs.foldl (fun done e => putKey e.1 e.2 done) made) := by
    induction h with
    | nil => exact fun hdone => hdone
    | @cons e f es fs he h ih =>
        intro done made hdone
        rw [List.foldl_cons, List.foldl_cons, ← he.1]
        exact ih (forall₂_putKey hdone he.2)
  exact hfold .nil

/-- The apps of such definitions differ at most in this step. -/
theorem StepChange.changedAt {c : Category} {key : Text} {v w : Value} (h : StepChange c key v w) (d : Category) :
    List.Forall₂ (ChangedAt c key d) ((App.ofValue v).steps d) ((App.ofValue w).steps d) := by
  rw [steps_ofValue, steps_ofValue]
  refine forall₂_byKey ?_
  rw [List.forall₂_map_left_iff, List.forall₂_map_right_iff]
  refine (h.steps d).imp ?_
  rintro ⟨k, x⟩ ⟨_, y⟩ ⟨rfl, hbody⟩
  exact ⟨rfl, fun hne => by rw [hbody hne]⟩

/-! ## Two runs -/

/-- An app that is converted under settings, at a moment: the tree and the library are as they are then. -/
structure Run where
  app : App
  settings : Settings
  tree : Tree
  library : Library

/-- The text of a file in a run, or why there is none. -/
def Run.text (r : Run) (a : Artifact) : Except Fault Text := (a.render r.app r.settings r.tree r.library).1

/-- Two runs with the same templates, whatever was rendered before them. -/
structure Alike (home : Home) (r q : Run) : Prop where
  left : Reached home r.tree r.library
  right : Reached home q.tree q.library
  templates : SameTemplates home r.tree q.tree

namespace Alike

variable {home : Home} {r q : Run}

theorem text_eq (h : Alike home r q) {a : Artifact}
    (hvalues : a.bindings r.app r.settings = a.bindings q.app q.settings) : r.text a = q.text a := by
  rw [Run.text, Run.text, render_eq h.left, render_eq h.right]
  exact textOf_congr h.templates hvalues

theorem step_text (h : Alike home r q) (hleast : r.settings.leastHelp = q.settings.leastHelp) (c : Category)
    (key : Text) (s : Step) : r.text (.step c key s) = q.text (.step c key s) := by
  refine h.text_eq ?_
  rw [Artifact.bindings, Artifact.bindings, hleast]

theorem index_text (h : Alike home r q) (hkeys : SameKeys r.app q.app) : r.text .index = q.text .index := by
  refine h.text_eq ?_
  rw [Artifact.bindings, Artifact.bindings, indexModule_congr hkeys]

theorem manifest_text (h : Alike home r q) (htitle : r.app.title = q.app.title)
    (hdescription : r.app.description = q.app.description)
    (hversion : r.settings.platformVersion = q.settings.platformVersion) : r.text .manifest = q.text .manifest := by
  refine h.text_eq ?_
  rw [Artifact.bindings, Artifact.bindings, Generate.manifest, Generate.manifest, htitle, hdescription, hversion]

end Alike

/-- The tasks of the steps stand where the steps stand. -/
theorem getElem?_plan {app : App} {i : Nat} {c : Category} {key : Text} {s : Step}
    (h : app.stepList[i]? = some (c, key, s)) :
    (plan app)[i]? = some ⟨Generate.stepFileName c key, .step c key s⟩ := by
  have htask : (stepTasks app)[i]? = some ⟨Generate.stepFileName c key, .step c key s⟩ := by
    rw [stepTasks, List.getElem?_map, h]
    rfl
  rw [plan_eq, List.getElem?_append_left (List.getElem?_eq_some_iff.1 htask).1, htask]

/-- **What the text of a file depends on.** Of two runs with the same templates, whatever was rendered before:

* a step has the same text wherever it stands in the two plans, if the least length of help texts is the same;
* the index has the same text if the keys of all steps are the same;
* the manifest has the same text if title, description and version are the same;
* definitions that differ in the body of one step are planned with the same files, and all other texts are the
  same;
* apps whose steps stand in another order have their tasks in another order, and all texts but that of the
  index are the same. -/
theorem files_are_local {home : Home} {r q : Run} (h : Alike home r q) :
    (r.settings.leastHelp = q.settings.leastHelp → ∀ (i j : Nat) (c : Category) (key : Text) (s : Step),
      r.app.stepList[i]? = some (c, key, s) → q.app.stepList[j]? = some (c, key, s) →
      ∃ task : Task, (plan r.app)[i]? = some task ∧ (plan q.app)[j]? = some task ∧
        task = ⟨Generate.stepFileName c key, .step c key s⟩ ∧ r.text task.artifact = q.text task.artifact) ∧
    (SameKeys r.app q.app → r.text .index = q.text .index) ∧
    (r.app.title = q.app.title → r.app.description = q.app.description →
      r.settings.platformVersion = q.settings.platformVersion → r.text .manifest = q.text .manifest) ∧
    (∀ c key v w, StepChange c key v w → r.app = App.ofValue v → q.app = App.ofValue w → r.settings = q.settings →
      List.Forall₂ (fun a b => a.fileName = b.fileName ∧
        ((∃ s, a.artifact = .step c key s) ∨ r.text a.artifact = q.text b.artifact)) (plan r.app) (plan q.app)) ∧
    (r.app.title = q.app.title → r.app.description = q.app.description → r.settings = q.settings →
      (∀ c, (r.app.steps c).Perm (q.app.steps c)) →
      (stepTasks r.app).Perm (stepTasks q.app) ∧
        ∀ task ∈ plan r.app, task.artifact ≠ .index → r.text task.artifact = q.text task.artifact) := by
  refine ⟨?_, h.index_text, h.manifest_text, ?_, ?_⟩
  · intro hleast i j c key s hi hj
    exact ⟨_, getElem?_plan hi, getElem?_plan hj, rfl, h.step_text hleast c key s⟩
  · intro c key v w hchange hr hq hsettings
    have hsteps : ∀ d, List.Forall₂ (ChangedAt c key d) (r.app.steps d) (q.app.steps d) := by
      rw [hr, hq]
      exact hchange.changedAt
    refine (forall₂_plan hsteps).imp ?_
    rintro ⟨name, a⟩ ⟨other, b⟩ ⟨hname, hchanged | rfl⟩
    · exact ⟨hname, Or.inl hchanged⟩
    · refine ⟨hname, Or.inr ?_⟩
      cases a with
      | step d k s => exact h.step_text (by rw [hsettings]) d k s
      | index => exact h.index_text (sameKeys_of_changedAt hsteps)
      | manifest =>
          refine h.manifest_text ?_ ?_ (by rw [hsettings])
          · rw [hr, hq, App.ofValue, App.ofValue, hchange.general]
          · rw [hr, hq, App.ofValue, App.ofValue, hchange.general]
  · intro htitle hdescription hsettings hperm
    refine ⟨perm_stepTasks hperm, ?_⟩
    rintro ⟨name, a⟩ - hindex
    cases a with
    | step c key s => exact h.step_text (by rw [hsettings]) c key s
    | index => exact absurd rfl hindex
    | manifest => exact h.manifest_text htitle hdescription (by rw [hsettings])

/-- A definition of two triggers, the first with the given body. -/
def twoTriggers (first : Value) : Value :=
  .map [(.str "triggers", .map [(.str "a", first), (.str "b", .map [])])]

/-- A body with one field. -/
def fieldBody : Value := .map [(.str "fields", .map [(.str "x", .map [])])]

/-- The run of an empty first trigger, with nothing rendered before. -/
def emptyRun : Run := ⟨App.ofValue (twoTriggers (.map [])), {}, Tree.empty, .ofHome .bundled⟩

/-- The run of a first trigger with a field, with some library. -/
def fieldRun (l : Library) : Run := ⟨App.ofValue (twoTriggers fieldBody), {}, Tree.empty, l⟩

theorem alike_fieldRun {l : Library} (h : Reached .bundled Tree.empty l) : Alike .bundled emptyRun (fieldRun l) :=
  ⟨.start, h, sameTemplates_bundled _ _⟩

/-- The first run with the triggers in the other order. -/
def turnedRun : Run := { emptyRun with app := { emptyRun.app with triggers := emptyRun.app.triggers.reverse } }

theorem stepChange_twoTriggers (first other : Value) :
    StepChange .trigger "a" (twoTriggers first) (twoTriggers other) := by
  have hgeneral : ∀ b, (twoTriggers b).member "general" = .null := by
    intro b
    cbv
  have htriggers : ∀ b, (twoTriggers b).member "triggers" = .map [(.str "a", b), (.str "b", .map [])] := by
    intro b
    cbv
  have hsearches : ∀ b, (twoTriggers b).member "searches" = .null := by
    intro b
    cbv
  have hactions : ∀ b, (twoTriggers b).member "actions" = .null := by
    intro b
    cbv
  refine ⟨by rw [hgeneral, hgeneral], ?_⟩
  intro d
  cases d with
  | trigger =>
      rw [Category.collection, htriggers, htriggers]
      exact .cons ⟨rfl, fun hne => absurd rfl hne⟩ (.cons ⟨rfl, fun _ => rfl⟩ .nil)
  | search =>
      rw [Category.collection, hsearches, hsearches]
      exact .nil
  | write =>
      rw [Category.collection, hactions, hactions]
      exact .nil

/-- The library of the second run was used before, for the manifest of another app. -/
theorem twoTriggers_local :
    let used := (Artifact.manifest.render default default Tree.empty (.ofHome .bundled)).2
    Alike .bundled emptyRun (fieldRun used) ∧ Alike .bundled emptyRun turnedRun ∧
      StepChange .trigger "a" (twoTriggers (.map [])) (twoTriggers fieldBody) ∧
      List.Forall₂ (fun a b => a.fileName = b.fileName ∧
        ((∃ s, a.artifact = .step .trigger "a" s) ∨ emptyRun.text a.artifact = (fieldRun used).text b.artifact))
        (plan emptyRun.app) (plan (fieldRun used).app) ∧
      ∀ task ∈ plan emptyRun.app, task.artifact ≠ .index →
        emptyRun.text task.artifact = turnedRun.text task.artifact := by
  intro used
  have hused : Reached .bundled Tree.empty used :=
    .render .start (sameTemplates_bundled Tree.empty Tree.empty) default default .manifest
  have hfield := alike_fieldRun hused
  have hturned : Alike .bundled emptyRun turnedRun := ⟨.start, .start, sameTemplates_bundled _ _⟩
  have hchange := stepChange_twoTriggers (.map []) fieldBody
  have hperm : ∀ c, (emptyRun.app.steps c).Perm (turnedRun.app.steps c) := by
    intro c
    cases c with
    | trigger => exact (List.reverse_perm _).symm
    | search => exact .refl _
    | write => exact .refl _
  exact ⟨hfield, hturned, hchange,
    (files_are_local hfield).2.2.2.1 .trigger "a" _ _ hchange rfl rfl rfl,
    ((files_are_local hturned).2.2.2.2 rfl rfl rfl hperm).2⟩

end StepForge.Conversion
