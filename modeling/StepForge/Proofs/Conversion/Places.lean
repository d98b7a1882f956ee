import StepForge.Conversion.Plan
import StepForge.Proofs.Naming.Points
import StepForge.Proofs.Tree.Writing

/-!
# `StepForge.Proofs.Conversion.Places` — where planned files stand

A step stands in the directory of its category, the index and the manifest stand at the top. The names
are made of words, so no key leads anywhere else. Two planned files stand at one place only when they
share a name, and no planned file stands where a directory leads to another one.

## Contents
- `Task.path`, `Task.place` — where a planned file stands.
- `mem_plan` — what is planned.
- `div_stepFileName`, `div_index`, `div_manifest` — the paths of planned files.
- `place_eq_iff`, `place_notMem_ancestors` — planned files do not stand in each other's way.
-/

namespace StepForge.Conversion

/-- The path of a planned file. -/
def Task.path (out : Path) (task : Task) : Path := out / task.fileName

/-- The place of a planned file. -/
def Task.place (out : Path) (task : Task) : Location := (task.path out).place

/-- **What is planned**: a file for each step, the index and the manifest. -/
theorem mem_plan {app : App} {task : Task} :
    task ∈ plan app ↔
      (∃ c key s, (c, key, s) ∈ app.stepList ∧ task = ⟨Generate.stepFileName c key, .step c key s⟩) ∨
        task = ⟨"index.js", .index⟩ ∨ task = ⟨"package.json", .manifest⟩ := by
  unfold plan
  rw [List.mem_append, List.mem_map]
  constructor
  · rintro (⟨⟨c, key, s⟩, hmem, rfl⟩ | h)
    · exact Or.inl ⟨c, key, s, hmem, rfl⟩
    · simpa using Or.inr h
  · rintro (⟨c, key, s, hmem, rfl⟩ | h)
    · exact Or.inl ⟨(c, key, s), hmem, rfl⟩
    · exact Or.inr (by simpa using h)

/-! ## Names of steps -/

/-- The last name of a step's file. -/
def stepName (key : Text) : Text := Naming.snakeCase key ++ (".js" : Text)

theorem slash_notMem_snakeCase (key : Text) : '/'.toNat ∉ Naming.snakeCase key := by
  intro h
  rcases Naming.mem_snakeCase h with hc | hc
  · cases hc
  · revert hc
    decide

theorem slash_notMem_stepName (key : Text) : '/'.toNat ∉ stepName key := by
  intro h
  rcases List.mem_append.1 h with h | h
  · exact slash_notMem_snakeCase key h
  · revert h
    decide

theorem two_lt_length_stepName (key : Text) : 2 < (stepName key).length := by
  have hlen : (".js" : Text).length = 3 := rfl
  rw [stepName, List.length_append, hlen]
  omega

theorem stepName_ne_back (key : Text) : stepName key ≠ back := by
  intro h
  have hlen := two_lt_length_stepName key
  rw [h] at hlen
  revert hlen
  decide

theorem directory_ne_back (c : Category) : c.directory ≠ back := by cases c <;> decide

theorem directory_injective {c d : Category} (h : c.directory = d.directory) : c = d := by
  cases c <;> cases d <;> first | rfl | (revert h; decide)

/-- The file of a step stands in the directory of its category. -/
theorem stepFileName_eq (c : Category) (key : Text) :
    Generate.stepFileName c key = Text.join "/" [c.directory, stepName key] := by
  have hslash : ("/" : Text) = ['/'.toNat] := rfl
  rw [Generate.stepFileName, Generate.stepModulePath, Text.join_cons_cons, Text.join_singleton, stepName,
    hslash]
  simp

theorem stepFileName_names (c : Category) (key : Text) :
    ∀ n ∈ [c.directory, stepName key], '/'.toNat ∉ n ∧ n ≠ [] ∧ n ≠ ("." : Text) := by
  have hdir : '/'.toNat ∉ c.directory ∧ c.directory ≠ [] ∧ c.directory ≠ ("." : Text) := by
    cases c <;> decide
  have hlen := two_lt_length_stepName key
  have hstep : '/'.toNat ∉ stepName key ∧ stepName key ≠ [] ∧ stepName key ≠ ("." : Text) := by
    refine ⟨slash_notMem_stepName key, ?_, ?_⟩
    · intro h
      rw [h] at hlen
      revert hlen
      decide
    · intro h
      rw [h] at hlen
      revert hlen
      decide
  intro n hn
  rcases List.mem_cons.1 hn with rfl | hn
  · exact hdir
  · rw [List.mem_singleton.1 hn]
    exact hstep

/-- Two steps share a file exactly when they share the category and the words of the key. -/
theorem stepFileName_eq_iff {c d : Category} {key other : Text} :
    Generate.stepFileName c key = Generate.stepFileName d other ↔
      c = d ∧ Naming.smallWords key = Naming.smallWords other := by
  rw [← Naming.snakeCase_eq_iff]
  constructor
  · intro h
    rw [stepFileName_eq, stepFileName_eq] at h
    have hnames := congrArg Path.namesOf h
    rw [Path.namesOf_join (by simp) (stepFileName_names c key),
      Path.namesOf_join (by simp) (stepFileName_names d other)] at hnames
    simp only [List.cons.injEq, and_true] at hnames
    exact ⟨directory_injective hnames.1, List.append_cancel_right hnames.2⟩
  · rintro ⟨rfl, h⟩
    rw [Generate.stepFileName, Generate.stepFileName, Generate.stepModulePath, Generate.stepModulePath, h]

/-! ## Paths of planned files -/

section Paths

variable (out : Path)

theorem div_stepFileName (c : Category) (key : Text) :
    out / Generate.stepFileName c key = (out.below c.directory).below (stepName key) := by
  show out.join (.ofText _) = _
  rw [stepFileName_eq, Path.ofText_join (by simp) (stepFileName_names c key), Path.join_relative]
  simp [Path.below]

theorem div_index : out / ("index.js" : Text) = out.below "index.js" := by
  have h : Path.ofText "index.js" = ⟨false, ["index.js"]⟩ := by decide
  show out.join (.ofText _) = _
  rw [h, Path.join_relative]
  rfl

theorem div_manifest : out / ("package.json" : Text) = out.below "package.json" := by
  have h : Path.ofText "package.json" = ⟨false, ["package.json"]⟩ := by decide
  show out.join (.ofText _) = _
  rw [h, Path.join_relative]
  rfl

/-- The directory of a category. -/
def stepDirectory (c : Category) : Location := out.place ++ [c.directory]

theorem place_stepFileName (c : Category) (key : Text) :
    (out / Generate.stepFileName c key).place = out.place ++ [c.directory, stepName key] := by
  rw [div_stepFileName, Path.place_below (stepName_ne_back key), Path.place_below (directory_ne_back c)]
  simp

theorem place_index : (out / ("index.js" : Text)).place = out.place ++ [("index.js" : Text)] := by
  rw [div_index, Path.place_below (by decide)]

theorem place_manifest :
    (out / ("package.json" : Text)).place = out.place ++ [("package.json" : Text)] := by
  rw [div_manifest, Path.place_below (by decide)]

/-- What leads to a step is what leads to the output directory, that directory, and its own one. -/
theorem ancestors_stepFileName (c : Category) (key : Text) :
    (out / Generate.stepFileName c key).ancestors = out.trail ++ [stepDirectory out c] := by
  rw [div_stepFileName, Path.ancestors_below, Path.trail_below (directory_ne_back c)]
  rfl

theorem ancestors_index : (out / ("index.js" : Text)).ancestors = out.trail := by
  rw [div_index, Path.ancestors_below]

theorem ancestors_manifest : (out / ("package.json" : Text)).ancestors = out.trail := by
  rw [div_manifest, Path.ancestors_below]

end Paths

/-! ## Planned files apart -/

variable {app : App} {out : Path} {a b : Task}

/-- The output directory leads to every planned file. -/
theorem trail_subset_ancestors (h : a ∈ plan app) {l : Location} (hl : l ∈ out.trail) :
    l ∈ (a.path out).ancestors := by
  unfold Task.path
  rcases mem_plan.1 h with ⟨c, key, s, _, rfl⟩ | rfl | rfl
  · rw [ancestors_stepFileName]
    exact List.mem_append_left _ hl
  · rw [ancestors_index]
    exact hl
  · rw [ancestors_manifest]
    exact hl

/-- What leads to a planned file leads to the output directory, or is the directory of a category. -/
theorem mem_ancestors_planned (h : a ∈ plan app) {l : Location} (hl : l ∈ (a.path out).ancestors) :
    l ∈ out.trail ∨ ∃ c key s, (c, key, s) ∈ app.stepList ∧ l = stepDirectory out c := by
  unfold Task.path at hl
  rcases mem_plan.1 h with ⟨c, key, s, hmem, rfl⟩ | rfl | rfl
  · rw [ancestors_stepFileName, List.mem_append, List.mem_singleton] at hl
    exact hl.imp_right fun hl => ⟨c, key, s, hmem, hl⟩
  · rw [ancestors_index] at hl
    exact Or.inl hl
  · rw [ancestors_manifest] at hl
    exact Or.inl hl

/-- The name of a planned file joins the names that lead to it from the output directory. -/
theorem exists_names (h : a ∈ plan app) :
    ∃ names, a.fileName = Text.join "/" names ∧ ∀ out, a.place out = out.place ++ names := by
  rcases mem_plan.1 h with ⟨c, key, s, _, rfl⟩ | rfl | rfl
  · exact ⟨_, stepFileName_eq c key, fun out => place_stepFileName out c key⟩
  · exact ⟨["index.js"], rfl, place_index⟩
  · exact ⟨["package.json"], rfl, place_manifest⟩

/-- Tasks of one name have one place. -/
theorem place_congr {out : Path} {a b : Task} (h : a.fileName = b.fileName) : a.place out = b.place out := by
  unfold Task.place Task.path
  rw [h]

/-- **Planned files at one place share their name.** -/
theorem place_eq_iff (ha : a ∈ plan app) (hb : b ∈ plan app) :
    a.place out = b.place out ↔ a.fileName = b.fileName := by
  constructor
  · intro h
    obtain ⟨names, hname, hplace⟩ := exists_names ha
    obtain ⟨others, hother, hotherPlace⟩ := exists_names hb
    rw [hplace, hotherPlace] at h
    rw [hname, hother, List.append_cancel_left h]
  · exact place_congr

/-- A planned file does not stand in the directory of a category as that directory. -/
theorem place_ne_stepDirectory (h : a ∈ plan app) (c : Category) : a.place out ≠ stepDirectory out c := by
  have hindex : ("index.js" : Text) ≠ c.directory := by cases c <;> decide
  have hmanifest : ("package.json" : Text) ≠ c.directory := by cases c <;> decide
  unfold Task.place Task.path stepDirectory
  rcases mem_plan.1 h with ⟨d, key, s, _, rfl⟩ | rfl | rfl
  · rw [place_stepFileName]
    simp
  · rw [place_index]
    simpa using hindex
  · rw [place_manifest]
    simpa using hmanifest

/-- **No planned file stands where a directory leads to another one**, if it is not in its own way. -/
theorem place_notMem_ancestors (ha : a ∈ plan app) (hb : b ∈ plan app)
    (hself : a.place out ∉ (a.path out).ancestors) : a.place out ∉ (b.path out).ancestors := by
  intro h
  rcases mem_ancestors_planned hb h with h | ⟨c, _, _, _, h⟩
  · exact hself (trail_subset_ancestors ha h)
  · exact place_ne_stepDirectory ha c h

end StepForge.Conversion
