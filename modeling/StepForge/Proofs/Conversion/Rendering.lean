import StepForge.Conversion.Run
import StepForge.Proofs.Conversion.Engine
import StepForge.Proofs.Conversion.Places
import StepForge.Proofs.Results

/-!
# `StepForge.Proofs.Conversion.Rendering` — texts that do not depend on when they are rendered

A file is rendered out of the app, the settings and a template. While files are written the tree changes,
and the library reads templates. Neither is seen in a text: no planned file is a template, since templates
have names of their own, and a template once given stays the same.

## Contents
- `Artifact.bytes` — the bytes of a file, given the tree and the library at hand.
- `Artifact.template_relative`, `Artifact.place_template_ne` — templates stand in their home, and no planned file is
  one.
- `Steady` — the templates of all files are given as they were at first.
- `Steady.bytes` — so are their bytes.
-/

namespace StepForge.Conversion

/-- The bytes of a file, as the templates at hand give them. -/
def Artifact.bytes (app : App) (settings : Settings) (t : Tree) (l : Template.Library) (a : Artifact) :
    Except Fault (List UInt8) := do
  let text ← (a.render app settings t l).1
  (Utf8.encode text).mapError .encoding

/-- A text is rendered out of its bindings and of what the library gives. -/
theorem Artifact.render_eq_ok_iff {app : App} {settings : Settings} {t : Tree} {l : Template.Library}
    {a : Artifact} {text : Text} :
    (a.render app settings t l).1 = .ok text ↔
      ∃ values nodes, a.bindings app settings = .ok values ∧ l.Gives t a.template nodes ∧
        Template.render nodes values = .ok text := by
  unfold render fillWith Engine.fillWith
  cases a.bindings app settings with
  | error fault => simp
  | ok values => simp only [fill_eq_ok_iff, Except.ok.injEq, exists_eq_left', exists_and_left]

theorem Artifact.bytes_eq_ok_iff {app : App} {settings : Settings} {t : Tree} {l : Template.Library}
    {a : Artifact} {bytes : List UInt8} :
    a.bytes app settings t l = .ok bytes ↔
      ∃ text, (a.render app settings t l).1 = .ok text ∧ Utf8.encode text = .ok bytes := by
  rw [Artifact.bytes]
  cases (a.render app settings t l).1 with
  | error fault => simp [bind, Except.bind]
  | ok text =>
      show (Utf8.encode text).mapError _ = _ ↔ _
      rw [mapError_eq_ok_iff]
      simp

/-! ## Templates and planned files -/

/-- The names of the templates of planned files. -/
def templateNames : List Text :=
  "index.js.j2" :: "package.json.j2" :: Category.all.map fun c => stepTemplate c.name

theorem Artifact.template_mem (a : Artifact) : a.template ∈ templateNames := by
  cases a with
  | step c key s => cases c <;> simp [template, templateNames, Category.all]
  | index => simp [template, templateNames]
  | manifest => simp [template, templateNames]

/-- Templates stand in their home itself, under a suffix that planned files do not have. -/
theorem templateNames_spec :
    ∀ n ∈ templateNames, Path.ofText n = ⟨false, [n]⟩ ∧ n ≠ back ∧ n.getLast? = some '2'.toNat := by
  decide

theorem Artifact.template_relative (a : Artifact) : (Path.ofText a.template).rooted = false := by
  rw [(templateNames_spec a.template a.template_mem).1]

theorem Artifact.place_template (a : Artifact) (dir : Path) :
    (dir / a.template).place = dir.place ++ [a.template] := by
  obtain ⟨hname, hback, _⟩ := templateNames_spec a.template a.template_mem
  have hdiv : dir / a.template = dir.below a.template := by
    show dir.join (.ofText _) = _
    rw [hname, Path.join_relative]
    rfl
  rw [hdiv, Path.place_below hback]

/-- The last name of a planned file does not end as templates do. -/
theorem getLast?_place {app : App} {task : Task} (h : task ∈ plan app) (out : Path) :
    ∃ l n, task.place out = l ++ [n] ∧ n.getLast? ≠ some '2'.toNat := by
  unfold Task.place Task.path
  rcases mem_plan.1 h with ⟨c, key, s, _, rfl⟩ | rfl | rfl
  · refine ⟨stepDirectory out c, stepName key, ?_, ?_⟩
    · rw [place_stepFileName, stepDirectory]
      simp
    · have hlast : (stepName key).getLast? = some 's'.toNat := by
        rw [stepName, List.getLast?_append]
        rfl
      rw [hlast]
      decide
  · exact ⟨out.place, "index.js", place_index out, by decide⟩
  · exact ⟨out.place, "package.json", place_manifest out, by decide⟩

/-- **No planned file is a template.** -/
theorem Artifact.place_template_ne {app : App} {task : Task} (h : task ∈ plan app) (out : Path)
    (a : Artifact) (dir : Path) : (dir / a.template).place ≠ task.place out := by
  obtain ⟨l, n, hplace, hlast⟩ := getLast?_place h out
  rw [a.place_template, hplace]
  intro heq
  have hname : a.template = n := by simpa using (List.append_inj' heq rfl).2
  exact hlast (hname ▸ (templateNames_spec a.template a.template_mem).2.2)

/-! ## Steady templates -/

/-- The places of the files that are planned for an app. -/
def places (app : App) (out : Path) : List Location := (plan app).map (Task.place out)

theorem mem_places {app : App} {out : Path} {task : Task} (h : task ∈ plan app) :
    task.place out ∈ places app out := List.mem_map_of_mem h

/-- Files at planned places and new directories keep the template of every file. -/
theorem Artifact.keeps_of_grows {app : App} {out : Path} {t u : Tree} (a : Artifact)
    (hgrows : t.Grows (places app out) u) (l : Template.Library) : l.Keeps a.template t u := by
  refine ⟨hgrows.dirs, ?_⟩
  intro dir _ bytes hfile
  refine hgrows.files _ ?_ bytes hfile
  intro hmem
  obtain ⟨task, htask, hplace⟩ := List.mem_map.1 hmem
  exact a.place_template_ne htask out dir hplace.symm

/-- The templates of all files are given as a library at first gave them in a first tree. -/
structure Steady (t₀ : Tree) (l₀ : Template.Library) (t : Tree) (l : Template.Library) : Prop where
  home : l.home = l₀.home
  gives : ∀ (a : Artifact) nodes, l₀.Gives t₀ a.template nodes → l.Gives t a.template nodes

namespace Steady

variable {app : App} {settings : Settings} {out : Path} {t₀ t u : Tree} {l₀ l : Template.Library}

theorem refl (t : Tree) (l : Template.Library) : Steady t l t l := ⟨rfl, fun _ _ h => h⟩

theorem trans {v : Tree} {l₁ l₂ : Template.Library} (h : Steady t₀ l₀ u l₁) (k : Steady u l₁ v l₂) :
    Steady t₀ l₀ v l₂ :=
  ⟨k.home.trans h.home, fun a nodes ha => k.gives a nodes (h.gives a nodes ha)⟩

/-- Rendering one file leaves the templates of all files as they are. -/
theorem render (h : Steady t₀ l₀ t l) (a : Artifact) :
    Steady t₀ l₀ t (a.render app settings t l).2 := by
  unfold Artifact.render fillWith Engine.fillWith
  cases a.bindings app settings with
  | error fault => exact h
  | ok values =>
      show Steady t₀ l₀ t (nodeEngine.fill t l a.template values).2
      rcases Engine.fill_store nodeEngine t l a.template values with hsame | ⟨nodes, hload⟩
      · rw [hsame]
        exact h
      · refine ⟨(Template.Store.home_of_load hload).trans h.home, ?_⟩
        intro b nodes hb
        exact (h.gives b nodes hb).of_load hload

/-- Files at planned places and new directories leave the templates of all files as they are. -/
theorem grow (h : Steady t₀ l₀ t l) (hgrows : t.Grows (places app out) u) : Steady t₀ l₀ u l where
  home := h.home
  gives a nodes hfirst := (h.gives a nodes hfirst).of_kept a.template_relative (a.keeps_of_grows hgrows l)

/-- A text is rendered as it would have been at first. -/
theorem text (h : Steady t₀ l₀ t l) {a : Artifact} {text : Text}
    (hfirst : (a.render app settings t₀ l₀).1 = .ok text) : (a.render app settings t l).1 = .ok text := by
  obtain ⟨values, nodes, hvalues, hgives, hrender⟩ := Artifact.render_eq_ok_iff.1 hfirst
  exact Artifact.render_eq_ok_iff.2 ⟨values, nodes, hvalues, h.gives a nodes hgives, hrender⟩

/-- **The bytes of a file are what they would have been at first.** -/
theorem bytes (h : Steady t₀ l₀ t l) {a : Artifact} {bytes : List UInt8}
    (hfirst : a.bytes app settings t₀ l₀ = .ok bytes) : a.bytes app settings t l = .ok bytes := by
  obtain ⟨text, hrender, hcode⟩ := Artifact.bytes_eq_ok_iff.1 hfirst
  exact Artifact.bytes_eq_ok_iff.2 ⟨text, h.text hrender, hcode⟩

end Steady
end StepForge.Conversion
