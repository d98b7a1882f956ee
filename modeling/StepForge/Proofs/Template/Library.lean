import StepForge.Proofs.Results
import StepForge.Proofs.Tree.Looking
import StepForge.Template.Library

/-!
# `StepForge.Proofs.Template.Library` — templates that stay what they are

A name is looked up twice, and the two agree unless it is rooted: what has a source stands where it was looked for.
A store keeps the templates that it read, and reads the others when they are asked for. What it gives
under a name is the same later on, whatever else was read in between, as long as the file of the template
is kept.

## Contents
- `Home.HasFile`, `Home.TooLong`, `Home.Opens` — what the two lookups ask of a name.
- `path_cases`, `source_eq_ok_iff`, `source_eq_decoding_iff`, `template_eq_ok_iff` — what comes of them.
- `Store.load_eq_ok_iff`, `Store.load_eq_error_iff` — all that loading can do.
- `Library.Gives` — the nodes that a library gives under a name.
- `Gives.of_load`, `Gives.of_kept` — what is given stays when others are read and when the tree grows.
- `Honest` — the bundled templates are given as they are, in every tree.
-/

namespace StepForge.Template

namespace Home

variable {α : Type} {h : Home} {compile : Compiler α} {t u : Tree} {name : Text}

/-! ## Where a name is looked for -/

/-- A name is that of a file, where it is looked for. -/
def HasFile (h : Home) (t : Tree) (name : Text) : Prop :=
  ∃ bytes, (h.lookout t name).1.Holds (h.lookout t name).2 (.file bytes)

/-- A name cannot be looked for: its path is too long. -/
def TooLong (h : Home) (t : Tree) (name : Text) : Prop :=
  (h.lookout t name).2.Askable ∧ (h.lookout t name).1.TooLong (h.lookout t name).2

/-- **What comes of looking for a name**: its path, none, or a path that is too long to be looked at. -/
theorem path_cases (h : Home) (t : Tree) (name : Text) :
    (h.HasFile t name ∧ ¬ h.TooLong t name ∧ h.path t name = .ok (h.pathText name)) ∨
      (¬ h.HasFile t name ∧ ¬ h.TooLong t name ∧ h.path t name = .error (.missing name h.text)) ∨
      (¬ h.HasFile t name ∧ h.TooLong t name ∧
        h.path t name = .error (.file (.system .nameTooLong (h.lookout t name).2))) := by
  unfold HasFile TooLong path
  generalize h.lookout t name = spot
  obtain ⟨files, p⟩ := spot
  simp only [← Tree.stat?_eq_some_iff]
  cases hstat : files.stat? p with
  | error f =>
      obtain ⟨rfl, hask, hlong⟩ := Tree.stat?_eq_error_iff.1 hstat
      exact Or.inr (Or.inr ⟨by simp, ⟨hask, hlong⟩, rfl⟩)
  | ok found =>
      have hshort : ¬ (p.Askable ∧ files.TooLong p) := by
        intro hlong
        rw [Tree.stat?_eq_error_iff.2 ⟨rfl, hlong⟩] at hstat
        cases hstat
      match found with
      | some (.file bytes) => exact Or.inl ⟨⟨bytes, rfl⟩, hshort, rfl⟩
      | some .dir => exact Or.inr (Or.inl ⟨by simp, hshort, rfl⟩)
      | none => exact Or.inr (Or.inl ⟨by simp, hshort, rfl⟩)

/-! ## Where its source is read -/

/-- A name whose source is looked for: no part of it leads back, and the path to it is not too long as it is
written. -/
structure Opens (h : Home) (t : Tree) (name : Text) : Prop where
  ahead : back ∉ Path.namesOf name
  short : nameSize (sourceText (h.place t).2 name) < pathLimit

theorem source_of_opens (hopens : h.Opens t name) :
    h.source t name = match (h.place t).1.readText (sourcePath (h.place t).2 name) with
      | .ok text => .ok text
      | .error (.decoding fault) => .error (.decoding fault)
      | .error _ => .error .missing := by
  obtain ⟨hahead, hshort⟩ := hopens
  unfold source
  generalize h.place t = spot at hshort ⊢
  obtain ⟨files, dir⟩ := spot
  refine if_neg ?_
  simpa using ⟨hahead, hshort⟩

theorem source_of_not_opens (hopens : ¬ h.Opens t name) : h.source t name = .error .missing := by
  have hopens : ¬ (back ∉ Path.namesOf name ∧ nameSize (sourceText (h.place t).2 name) < pathLimit) :=
    fun hboth => hopens ⟨hboth.1, hboth.2⟩
  unfold source
  generalize h.place t = spot at hopens ⊢
  obtain ⟨files, dir⟩ := spot
  refine if_pos ?_
  rw [not_and_or, not_not, Nat.not_lt] at hopens
  simpa using hopens

/-- **A name has a source** exactly if it is looked for and a file with the bytes of a text stands there. -/
theorem source_eq_ok_iff {text : Text} :
    h.source t name = .ok text ↔
      h.Opens t name ∧ (h.place t).1.HoldsText (sourcePath (h.place t).2 name) text := by
  rw [← Tree.readText_eq_ok_iff]
  by_cases hopens : h.Opens t name
  · rw [source_of_opens hopens, and_iff_right hopens]
    rcases (h.place t).1.readText (sourcePath (h.place t).2 name) with fault | text
    · cases fault <;> simp
    · simp
  · rw [source_of_not_opens hopens]
    simp [hopens]

/-- **Its bytes are no text** exactly if it is looked for and a file with such bytes stands there. -/
theorem source_eq_decoding_iff {f : Utf8.DecodeFault} :
    h.source t name = .error (.decoding f) ↔
      h.Opens t name ∧ ∃ bytes, (h.place t).1.Holds (sourcePath (h.place t).2 name) (.file bytes) ∧
        Utf8.decode bytes = .error f := by
  rw [← Tree.readText_eq_decoding_iff]
  by_cases hopens : h.Opens t name
  · rw [source_of_opens hopens, and_iff_right hopens]
    rcases (h.place t).1.readText (sourcePath (h.place t).2 name) with fault | text
    · cases fault <;> simp
    · simp
  · rw [source_of_not_opens hopens]
    simp [hopens]

/-- A source stays what it is in a tree that keeps its file. -/
theorem source_kept {text : Text} (hsource : h.source t name = .ok text)
    (hdirs : (h.place t).1.DirsKept (h.place u).1) (hdir : (h.place u).2 = (h.place t).2)
    (hfile : ∀ bytes, (h.place t).1.at? (sourcePath (h.place t).2 name).place = some (.file bytes) →
      (h.place u).1.at? (sourcePath (h.place t).2 name).place = some (.file bytes)) :
    h.source u name = .ok text := by
  obtain ⟨⟨hahead, hshort⟩, htext⟩ := source_eq_ok_iff.1 hsource
  refine source_eq_ok_iff.2 ⟨⟨hahead, by rwa [hdir]⟩, ?_⟩
  rw [hdir]
  exact Tree.readText_eq_ok_iff.1 (Tree.readText_kept (Tree.readText_eq_ok_iff.2 htext) hdirs hfile)

/-! ## The template of a name -/

/-- **A source is made a template** exactly if there is one and it compiles. -/
theorem compiled_eq_ok_iff {a : α} :
    h.compiled compile t name = .ok a ↔ ∃ text, h.source t name = .ok text ∧ compile name text = .ok a := by
  unfold compiled
  cases h.source t name with
  | error fault => cases fault <;> simp
  | ok text =>
      cases hcompile : compile name text with
      | ok found => simp [hcompile]
      | error fault => cases fault <;> simp [hcompile]

/-- **A name has a template** exactly if it is that of a file and has a source that compiles. -/
theorem template_eq_ok_iff {a : α} :
    h.template compile t name = .ok a ↔
      h.HasFile t name ∧ ∃ text, h.source t name = .ok text ∧ compile name text = .ok a := by
  rw [← compiled_eq_ok_iff]
  unfold template
  rcases h.path_cases t name with ⟨hfile, -, hpath⟩ | ⟨hfile, -, hpath⟩ | ⟨hfile, -, hpath⟩
  · rw [hpath, and_iff_right hfile]
    rfl
  · rw [hpath]
    exact iff_of_false nofun fun hboth => hfile hboth.1
  · rw [hpath]
    exact iff_of_false nofun fun hboth => hfile hboth.1

/-! ## Names that are not rooted -/

theorem lookout_of_relative (hname : (Path.ofText name).rooted = false) (h : Home) (t : Tree) :
    h.lookout t name = ((h.place t).1, (h.place t).2 / name) := by
  unfold lookout
  simp only [hname]
  rfl

theorem path_of_relative (hname : (Path.ofText name).rooted = false) (h : Home) (t : Tree) :
    h.path t name = match (h.place t).1.stat? ((h.place t).2 / name) with
      | .error fault => .error (.file fault)
      | .ok (some (.file _)) => .ok (h.pathText name)
      | .ok _ => .error (.missing name h.text) := by
  have hlook := lookout_of_relative hname h t
  cases hstat : (h.place t).1.stat? ((h.place t).2 / name) with
  | error fault => simp only [path, hlook, hstat]
  | ok seen => rcases seen with _ | _ | bytes <;> simp only [path, hlook, hstat]

theorem sourcePath_of_relative (hname : (Path.ofText name).rooted = false) (dir : Path) :
    sourcePath dir name = dir / name := by
  have hpath : Path.ofText name = ⟨false, Path.namesOf name⟩ := by
    rw [← hname]
    rfl
  show dir.join _ = dir.join _
  rw [hpath]

/-- **What has a source stands where it was looked for.** -/
theorem hasFile_of_source (hname : (Path.ofText name).rooted = false) {text : Text}
    (hsource : h.source t name = .ok text) : h.HasFile t name := by
  obtain ⟨-, bytes, -, hfile, -⟩ := source_eq_ok_iff.1 hsource
  rw [sourcePath_of_relative hname] at hfile
  refine ⟨bytes, ?_⟩
  rw [lookout_of_relative hname]
  exact hfile

/-- So only its source matters for a name that is not rooted. -/
theorem template_eq_ok_iff_of_relative (hname : (Path.ofText name).rooted = false) {a : α} :
    h.template compile t name = .ok a ↔ h.compiled compile t name = .ok a := by
  rw [template_eq_ok_iff, compiled_eq_ok_iff]
  exact and_iff_right_of_imp fun ⟨text, hsource, _⟩ => hasFile_of_source hname hsource

end Home

/-! ## Loading -/

namespace Store

variable {α : Type} {compile : Compiler α} {l after : Store α} {t : Tree} {name : Text} {a : α}

/-- **A template is loaded** if it is known, or else if its name has one; then it is known from then on. -/
theorem load_eq_ok_iff :
    l.load compile t name = .ok (a, after) ↔
      (l.known.lookup name = some a ∧ after = l) ∨
        (l.known.lookup name = none ∧ l.home.template compile t name = .ok a ∧
          after = ⟨l.home, (name, a) :: l.known⟩) := by
  unfold load
  cases hknown : l.known.lookup name with
  | some known => simp [eq_comm]
  | none =>
      cases l.home.template compile t name with
      | error f => simp [Except.map]
      | ok found =>
          simp only [Except.map, Except.ok.injEq, Prod.mk.injEq, reduceCtorEq, false_and, true_and, false_or]
          constructor
          · rintro ⟨rfl, rfl⟩
            exact ⟨rfl, rfl⟩
          · rintro ⟨rfl, rfl⟩
            exact ⟨rfl, rfl⟩

/-- **It cannot be loaded** if it is not known and its name has none. -/
theorem load_eq_error_iff {f : LoadFault} :
    l.load compile t name = .error f ↔
      l.known.lookup name = none ∧ l.home.template compile t name = .error f := by
  unfold load
  cases hknown : l.known.lookup name with
  | some known => simp
  | none => cases l.home.template compile t name <;> simp [Except.map]

theorem home_of_load (h : l.load compile t name = .ok (a, after)) : after.home = l.home := by
  rcases load_eq_ok_iff.1 h with ⟨-, rfl⟩ | ⟨-, -, rfl⟩
  · rfl
  · rfl

/-- A template that was loaded is known from then on. -/
theorem lookup_of_load (h : l.load compile t name = .ok (a, after)) : after.known.lookup name = some a := by
  rcases load_eq_ok_iff.1 h with ⟨hknown, rfl⟩ | ⟨-, -, rfl⟩
  · exact hknown
  · simp

/-- Only the name that was loaded can be known anew. -/
theorem lookup_of_load_ne {other : Text} (h : l.load compile t name = .ok (a, after)) (hne : other ≠ name) :
    after.known.lookup other = l.known.lookup other := by
  rcases load_eq_ok_iff.1 h with ⟨-, rfl⟩ | ⟨-, -, rfl⟩
  · rfl
  · rw [List.lookup_cons, beq_false_of_ne hne]

end Store

namespace Library

variable {l after : Library} {t u : Tree} {name : Text} {nodes : List Node}

theorem nodesOf_eq_ok_iff {source : Text} : nodesOf name source = .ok nodes ↔ read source = .ok nodes :=
  mapError_eq_ok_iff

/-- A template is read exactly if its name is that of a file and has a source that is read as one. -/
theorem readFile_eq_ok_iff :
    l.readFile t name = .ok nodes ↔
      l.home.HasFile t name ∧ ∃ text, l.home.source t name = .ok text ∧ read text = .ok nodes := by
  unfold readFile
  rw [Home.template_eq_ok_iff]
  simp only [nodesOf_eq_ok_iff]

/-- A template that is read does not change where others are read. -/
theorem readFile_congr {m : Library} (h : m.home = l.home) (t : Tree) (name : Text) :
    m.readFile t name = l.readFile t name := by
  unfold readFile
  rw [h]

/-- The nodes that a library gives under a name. -/
def Gives (l : Library) (t : Tree) (name : Text) (nodes : List Node) : Prop :=
  ∃ after, l.load t name = .ok (nodes, after)

/-- The nodes that are given are known, or else stand in a file. -/
theorem gives_iff :
    l.Gives t name nodes ↔
      l.known.lookup name = some nodes ∨ l.known.lookup name = none ∧ l.readFile t name = .ok nodes := by
  unfold Gives load readFile
  simp only [Store.load_eq_ok_iff, exists_or, exists_and_left, exists_eq, and_true]

/-! ## Reading others -/

/-- **What is given stays given** when another template is read. -/
theorem Gives.of_load {other : Text} {read : List Node} (h : l.Gives t name nodes)
    (hload : l.load t other = .ok (read, after)) : after.Gives t name nodes := by
  have hfile := readFile_congr (Store.home_of_load hload) t name
  by_cases hname : name = other
  · -- The same name is known from now on as what its file was read as.
    subst hname
    obtain ⟨found, hfound⟩ := h
    have hsame : Except.ok (nodes, found) = Except.ok (read, after) := hfound.symm.trans hload
    cases hsame
    exact gives_iff.2 (Or.inl (Store.lookup_of_load hload))
  · rw [gives_iff, Store.lookup_of_load_ne hload hname, hfile]
    exact gives_iff.1 h

/-! ## Growing trees -/

/-- What is asked of a later tree, so that the file of a template is there unchanged. -/
structure Keeps (l : Library) (name : Text) (t u : Tree) : Prop where
  dirs : t.DirsKept u
  file : ∀ dir, l.home = .directory dir → ∀ bytes,
    t.at? (dir / name).place = some (.file bytes) → u.at? (dir / name).place = some (.file bytes)

theorem Keeps.place_kept (h : l.Keeps name t u) :
    (l.home.place t).1.DirsKept (l.home.place u).1 ∧
      (l.home.place u).2 = (l.home.place t).2 ∧
      ∀ bytes, (l.home.place t).1.at? ((l.home.place t).2 / name).place = some (.file bytes) →
        (l.home.place u).1.at? ((l.home.place t).2 / name).place = some (.file bytes) := by
  cases hhome : l.home with
  | bundled => exact ⟨Tree.DirsKept.refl _, rfl, fun _ hb => hb⟩
  | directory dir => exact ⟨h.dirs, rfl, h.file dir hhome⟩

/-- The nodes of a template that can be read are read where its file is kept. -/
theorem readFile_kept (hname : (Path.ofText name).rooted = false) (h : l.readFile t name = .ok nodes)
    (hkeeps : l.Keeps name t u) : l.readFile u name = .ok nodes := by
  obtain ⟨hdirs, hdir, hfile⟩ := hkeeps.place_kept
  rw [← Home.sourcePath_of_relative hname] at hfile
  obtain ⟨-, text, hsource, hread⟩ := readFile_eq_ok_iff.1 h
  have hkept := Home.source_kept hsource hdirs hdir hfile
  exact readFile_eq_ok_iff.2 ⟨Home.hasFile_of_source hname hkept, text, hkept, hread⟩

/-- **What is given stays given** in a tree that keeps the file of the template. -/
theorem Gives.of_kept (hname : (Path.ofText name).rooted = false) (h : l.Gives t name nodes)
    (hkeeps : l.Keeps name t u) : l.Gives u name nodes := by
  rw [gives_iff] at h ⊢
  rcases h with hknown | ⟨hknown, hread⟩
  · exact Or.inl hknown
  · exact Or.inr ⟨hknown, readFile_kept hname hread hkeeps⟩

/-! ## Bundled templates -/

/-- A library that knows of the bundled templates what stands in their files, and nothing else. -/
structure Honest (l : Library) : Prop where
  home : l.home = .bundled
  known : ∀ t name nodes, l.known.lookup name = some nodes → Home.bundled.compiled nodesOf t name = .ok nodes

theorem honest_standard : standard.Honest where
  home := rfl
  known t name nodes h := by cases h

/-- Bundled templates are read from their own tree, whatever tree is at hand. -/
theorem readFile_standard (hname : (Path.ofText name).rooted = false) (t u : Tree) :
    standard.readFile t name = standard.readFile u name := by
  have hplace : Home.bundled.place t = Home.bundled.place u := rfl
  show Home.bundled.template nodesOf t name = Home.bundled.template nodesOf u name
  unfold Home.template Home.path Home.compiled Home.source
  rw [Home.lookout_of_relative hname, Home.lookout_of_relative hname, hplace]

/-- **An honest library gives what the bundled templates are**, in every tree. -/
theorem Honest.gives_iff_compiled (h : l.Honest) (hname : (Path.ofText name).rooted = false) (t u : Tree) :
    l.Gives t name nodes ↔ Home.bundled.compiled nodesOf u name = .ok nodes := by
  have hfile : l.readFile t name = .ok nodes ↔ Home.bundled.compiled nodesOf u name = .ok nodes := by
    unfold readFile
    rw [h.home, Home.template_eq_ok_iff_of_relative hname]
    rfl
  rw [Library.gives_iff, hfile]
  constructor
  · rintro (hknown | ⟨-, hread⟩)
    · exact h.known u name nodes hknown
    · exact hread
  · intro hread
    cases hknown : l.known.lookup name with
    | none => exact Or.inr ⟨rfl, hread⟩
    | some known =>
        have hsame := (h.known u name known hknown).symm.trans hread
        exact Or.inl (congrArg some (Except.ok.inj hsame))

theorem Honest.gives_iff (h : l.Honest) (hname : (Path.ofText name).rooted = false) :
    l.Gives t name nodes ↔ standard.Gives u name nodes := by
  rw [h.gives_iff_compiled hname t u, honest_standard.gives_iff_compiled hname u u]

/-- A template that is read keeps a library honest. -/
theorem Honest.load (h : l.Honest) (hload : l.load t name = .ok (nodes, after)) : after.Honest := by
  refine ⟨(Store.home_of_load hload).trans h.home, ?_⟩
  intro u other found hfound
  by_cases hother : other = name
  · subst hother
    rcases Store.load_eq_ok_iff.1 hload with ⟨-, rfl⟩ | ⟨-, hread, -⟩
    · exact h.known u other found hfound
    · rw [Store.lookup_of_load hload] at hfound
      cases hfound
      rw [h.home, Home.template_eq_ok_iff] at hread
      exact Home.compiled_eq_ok_iff.2 hread.2
  · rw [Store.lookup_of_load_ne hload hother] at hfound
    exact h.known u other found hfound

end Library
end StepForge.Template
