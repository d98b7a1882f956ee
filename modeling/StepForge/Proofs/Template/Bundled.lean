import StepForge.Proofs.Template.Library

/-!
# `StepForge.Proofs.Template.Bundled` — the bundled templates are read as they are

The bundled templates are written into a tree of their own, one after another, and read from there. Their
names differ and their texts can be written, so each of them is read back, whatever tree is at hand.

## Contents
- `bundled_names`, `exists_encode_bundled` — what the bundled templates have in common.
- `Shelved` — the bundled templates that stand in a tree.
- `standard_gives` — the nodes that the library of the bundled templates gives.
-/

namespace StepForge.Template

/-- The bundled templates stand in their directory itself. -/
theorem bundled_names :
    ∀ f ∈ bundled, Path.ofText f.1 = ⟨false, [f.1]⟩ ∧ f.1 ≠ back ∧ (bundledDirectory / f.1).IsLegal := by
  decide +kernel

theorem bundled_nodup : (bundled.map (·.1)).Nodup := by decide +kernel

/-- Lines of strings can be written as bytes. -/
theorem exists_encode_linesText {lines : List Text} (h : ∀ t ∈ lines, ∃ s, t = Text.ofString s) :
    ∃ bytes, Utf8.encode (linesText lines) = .ok bytes := by
  apply Utf8.exists_encode
  intro c hc
  obtain ⟨line, hline, hc⟩ := List.mem_flatMap.1 hc
  rcases List.mem_append.1 hc with hc | hc
  · obtain ⟨s, rfl⟩ := h line hline
    exact Utf8.encodePoint?_of_mem_ofString hc
  · rw [List.mem_singleton.1 hc]
    rfl

theorem exists_encode_bundled {f : Text × Text} (h : f ∈ bundled) : ∃ bytes, Utf8.encode f.2 = .ok bytes := by
  simp only [bundled, List.mem_cons, List.not_mem_nil, or_false] at h
  rcases h with rfl | rfl | rfl | rfl | rfl
  all_goals
    apply exists_encode_linesText
    simp only [List.forall_mem_cons, List.not_mem_nil, false_imp_iff, implies_true, and_true]
    and_intros
    all_goals exact ⟨_, rfl⟩

theorem div_bundled {f : Text × Text} (h : f ∈ bundled) :
    bundledDirectory / f.1 = bundledDirectory.below f.1 := by
  show bundledDirectory.join (.ofText f.1) = _
  rw [(bundled_names f h).1, Path.join_relative]
  rfl

theorem place_bundled {f : Text × Text} (h : f ∈ bundled) :
    (bundledDirectory / f.1).place = [("convert" : Text), f.1] := by
  have hplace : bundledDirectory.place = [("convert" : Text)] := by decide
  rw [div_bundled h, Path.place_below (bundled_names f h).2.1, hplace]
  rfl

theorem ancestors_bundled {f : Text × Text} (h : f ∈ bundled) :
    (bundledDirectory / f.1).ancestors = [[], [("convert" : Text)]] := by
  rw [div_bundled h, Path.ancestors_below]
  decide

/-! ## The tree of the bundled templates -/

/-- A tree in whose directory of templates some templates stand, and no directories. -/
structure Shelved (files : List (Text × Text)) (t : Tree) : Prop where
  open_dir : t.at? [("convert" : Text)] = none ∨ t.at? [("convert" : Text)] = some .dir
  no_dir : ∀ n, t.at? [("convert" : Text), n] ≠ some .dir
  file : ∀ f ∈ files, ∃ bytes, Utf8.encode f.2 = .ok bytes ∧
    t.at? [("convert" : Text), f.1] = some (.file bytes)

/-- There is room for every template. -/
theorem Shelved.canWrite {files : List (Text × Text)} {t : Tree} (h : Shelved files t) {f : Text × Text}
    (hf : f ∈ bundled) : t.CanWrite (bundledDirectory / f.1) := by
  refine ⟨(bundled_names f hf).2.2, ?_, ?_, ?_⟩
  · intro l hl
    rw [ancestors_bundled hf] at hl
    rcases List.mem_cons.1 hl with rfl | hl
    · exact Or.inr t.at?_nil
    · rw [List.mem_singleton.1 hl]
      exact h.open_dir
  · rw [place_bundled hf]
    exact h.no_dir f.1
  · rw [place_bundled hf, ancestors_bundled hf]
    simp

/-- One template more. -/
theorem Shelved.withFile {files : List (Text × Text)} {t : Tree} (h : Shelved files t)
    {f : Text × Text} (hf : f ∈ bundled) (hnew : f.1 ∉ files.map (·.1)) :
    Shelved (files ++ [f]) (withFile t (bundledDirectory / f.1) f.2) := by
  obtain ⟨bytes, hbytes⟩ := exists_encode_bundled hf
  obtain ⟨_, hview⟩ := (h.canWrite hf).writeText hbytes
  rw [place_bundled hf, ancestors_bundled hf] at hview
  unfold Template.withFile
  refine ⟨?_, ?_, ?_⟩
  · rw [hview, withFile_of_ne (by simp), withDirs_of_mem (by simp)]
    exact Or.inr rfl
  · intro n
    rw [hview]
    by_cases hn : n = f.1
    · rw [hn, withFile_self]
      simp
    · rw [withFile_of_ne (by simpa using hn), withDirs_of_notMem (by simp)]
      exact h.no_dir n
  · intro g hg
    rcases List.mem_append.1 hg with hg | hg
    · -- The names differ, so the templates that were there stay.
      obtain ⟨old, hold, hfile⟩ := h.file g hg
      have hne : g.1 ≠ f.1 := by
        intro heq
        exact hnew (heq ▸ List.mem_map_of_mem hg)
      refine ⟨old, hold, ?_⟩
      rw [hview, withFile_of_ne (by simpa using hne), withDirs_of_notMem (by simp)]
      exact hfile
    · rw [List.mem_singleton.1 hg]
      refine ⟨bytes, hbytes, ?_⟩
      rw [hview, withFile_self]

/-- **One template after another.** -/
theorem Shelved.foldl {files more : List (Text × Text)} {t : Tree} (h : Shelved files t)
    (hmore : ∀ f ∈ more, f ∈ bundled) (hnodup : ((files ++ more).map (·.1)).Nodup) :
    Shelved (files ++ more)
      (more.foldl (fun t file => Template.withFile t (bundledDirectory / file.1) file.2) t) := by
  induction more generalizing files t with
  | nil => simpa using h
  | cons f more ih =>
      have hnew : f.1 ∉ files.map (·.1) := by
        intro hmem
        rw [List.map_append, List.nodup_append] at hnodup
        exact hnodup.2.2 _ hmem _ (by simp) rfl
      have hstep := h.withFile (hmore f (by simp)) hnew
      have hrest := ih hstep (fun g hg => hmore g (List.mem_cons_of_mem f hg)) (by simpa using hnodup)
      simpa using hrest

theorem shelved_bundledTree : Shelved bundled bundledTree := by
  have hempty : Shelved [] Tree.empty := by
    refine ⟨by decide, ?_, by simp⟩
    intro n
    simp [Tree.at?, entryAt, Tree.empty, isAbove, back, Text.ofString]
  exact hempty.foldl (fun _ h => h) bundled_nodup

/-- Bundled templates stand where they are looked for. -/
theorem locate_bundled {f : Text × Text} (h : f ∈ bundled) :
    ∃ bytes, Utf8.encode f.2 = .ok bytes ∧
      ∃ l there, bundledTree.locate (bundledDirectory / f.1) = .ok (.present l (.file bytes) there) := by
  obtain ⟨bytes, hbytes, hfile⟩ := shelved_bundledTree.file f h
  have hconvert : bundledTree.at? [("convert" : Text)] = some .dir :=
    bundledTree.at?_parent (l := [("convert" : Text)]) (n := f.1) hfile
  have hreach : bundledTree.Reached (bundledDirectory / f.1) := by
    intro l hl
    rw [ancestors_bundled h] at hl
    rcases List.mem_cons.1 hl with rfl | hl
    · exact bundledTree.at?_nil
    · rw [List.mem_singleton.1 hl]
      exact hconvert
  rw [← place_bundled h] at hfile
  exact ⟨bytes, hbytes, _, hfile, Tree.locate_present (bundled_names f h).2.2 hreach hfile⟩

/-- **The library of the bundled templates gives what is read from their texts.** -/
theorem standard_gives {name source : Text} {nodes : List Node} (h : (name, source) ∈ bundled)
    (hread : read (Utf8.universalLines source) = .ok nodes) (t : Tree) : Library.standard.Gives t name nodes := by
  obtain ⟨bytes, hbytes, hloc⟩ := locate_bundled h
  dsimp only at hbytes hloc
  have hname : (Path.ofText name).rooted = false := by rw [(bundled_names _ h).1]
  have hplace : Home.bundled.place t = (bundledTree, bundledDirectory) := rfl
  have hsource : Home.bundled.source t name = .ok (Utf8.universalLines source) := by
    rw [Home.source_eq_ok_iff, hplace]
    dsimp only
    rw [Home.sourcePath_of_relative hname]
    refine ⟨⟨?_, ?_⟩, Tree.readText_eq_ok_iff.1 (Tree.readText_of_present hloc hbytes)⟩
    · show back ∉ (Path.ofText name).names
      rw [(bundled_names _ h).1, List.mem_singleton]
      exact (bundled_names _ h).2.1.symm
    · have hlegal := (bundled_names _ h).2.2.short
      rw [← Home.sourcePath_of_relative hname] at hlegal
      rw [hplace]
      exact hlegal
  exact Library.gives_iff.2 (Or.inr ⟨rfl, Library.readFile_eq_ok_iff.2
    ⟨Home.hasFile_of_source hname hsource, _, hsource, hread⟩⟩)

end StepForge.Template
