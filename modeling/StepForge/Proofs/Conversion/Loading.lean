import StepForge.Proofs.Conversion.Engine

/-!
# `StepForge.Proofs.Conversion.Loading` — how the loading of a template ends

A template that cannot be had is said to be missing, whether there is no file, the name leads back, or the source
cannot be compiled. Three faults pass by: bytes that are no text, a path that is too long to be looked at, and
what compiling fails with when it is no fault of templates. Nothing is asked of the engine that compiles.

## Contents
- `Home.Reads` — names that are those of files, with the text of their source.
- `Home.Passes`, `Home.template_cases`, `Home.template_of_passes` — the faults that pass by.
- `LoadFails`, `Escapes`, `load_cases` — how loading ends, with the faults as they are reported.
- `template_loading_ends` — the same for loading and filling together.
-/

namespace StepForge

namespace Template.Home

variable {α : Type} {h : Home} {compile : Compiler α} {t : Tree} {name text : Text}

/-! ## One file -/

/-- A name is that of a file, and under it a source is found, which is a text. -/
structure Reads (h : Home) (t : Tree) (name text : Text) : Prop extends h.Opens t name where
  found : h.HasFile t name
  holds : (h.place t).1.HoldsText (sourcePath (h.place t).2 name) text

theorem reads_iff : h.Reads t name text ↔ h.HasFile t name ∧ h.source t name = .ok text := by
  rw [source_eq_ok_iff]
  constructor
  · rintro ⟨hopens, hfile, htext⟩
    exact ⟨hfile, hopens, htext⟩
  · rintro ⟨hfile, hopens, htext⟩
    exact ⟨hopens, hfile, htext⟩

/-- The faults that pass by: the path of the name is too long to be looked at, the bytes of its source are no text,
or compiling fails with no fault of templates. -/
def Passes (h : Home) (compile : Compiler α) (t : Tree) (name : Text) : LoadFault → Prop
  | .missing _ _ => False
  | .file f => f = .system .nameTooLong (h.lookout t name).2 ∧ h.TooLong t name
  | .decoding f => h.HasFile t name ∧ h.Opens t name ∧
      ∃ bytes, (h.place t).1.Holds (sourcePath (h.place t).2 name) (.file bytes) ∧ Utf8.decode bytes = .error f
  | .compiling message => ∃ text, h.Reads t name text ∧ compile name text = .error (.other message)

theorem template_of_hasFile (hfile : h.HasFile t name) : h.template compile t name = h.compiled compile t name := by
  unfold template
  rcases h.path_cases t name with ⟨-, -, hpath⟩ | ⟨hnone, -⟩ | ⟨hnone, -⟩
  · rw [hpath]
    rfl
  · exact absurd hfile hnone
  · exact absurd hfile hnone

/-- **How the loading of one file ends**: with a template, as missing, or with a fault that passes by. -/
theorem template_cases (h : Home) (compile : Compiler α) (t : Tree) (name : Text) :
    (∃ a, h.template compile t name = .ok a) ∨ h.template compile t name = .error (.missing name h.text) ∨
      ∃ f, h.template compile t name = .error f ∧ h.Passes compile t name f := by
  rcases h.path_cases t name with ⟨hfile, -, -⟩ | ⟨-, -, hpath⟩ | ⟨-, hlong, hpath⟩
  · rw [template_of_hasFile hfile, compiled]
    cases hsource : h.source t name with
    | error fault =>
        cases fault with
        | missing => exact Or.inr (Or.inl rfl)
        | decoding f =>
            exact Or.inr (Or.inr ⟨.decoding f, rfl, hfile, source_eq_decoding_iff.1 hsource⟩)
    | ok text =>
        cases hcompile : compile name text with
        | ok a => exact Or.inl ⟨a, by simp only [hcompile]⟩
        | error fault =>
            cases fault with
            | template => exact Or.inr (Or.inl (by simp only [hcompile]))
            | other message =>
                exact Or.inr (Or.inr ⟨.compiling message, by simp only [hcompile], text,
                  reads_iff.2 ⟨hfile, hsource⟩, hcompile⟩)
  · refine Or.inr (Or.inl ?_)
    rw [template, hpath]
    rfl
  · refine Or.inr (Or.inr ⟨.file (.system .nameTooLong (h.lookout t name).2), ?_, rfl, hlong⟩)
    rw [template, hpath]
    rfl

/-- A fault that can pass by does. -/
theorem template_of_passes {f : LoadFault} (hpasses : h.Passes compile t name f) :
    h.template compile t name = .error f := by
  cases f with
  | missing other home => exact hpasses.elim
  | file f =>
      obtain ⟨rfl, hlong⟩ := hpasses
      rcases h.path_cases t name with ⟨-, hshort, -⟩ | ⟨-, hshort, -⟩ | ⟨-, -, hpath⟩
      · exact absurd hlong hshort
      · exact absurd hlong hshort
      · rw [template, hpath]
        rfl
  | decoding f =>
      obtain ⟨hfile, hbytes⟩ := hpasses
      rw [template_of_hasFile hfile, compiled, source_eq_decoding_iff.2 hbytes]
  | compiling message =>
      obtain ⟨text, hreads, hcompile⟩ := hpasses
      obtain ⟨hfile, hsource⟩ := reads_iff.1 hreads
      rw [template_of_hasFile hfile, compiled, hsource]
      simp only [hcompile]

end Template.Home

namespace Conversion

open Template

variable {α : Type} {engine : Engine α} {l : Store α} {t : Tree} {name : Text}

/-! ## Loading -/

/-- The loading of a template fails, with the fault as it is reported. -/
def LoadFails (engine : Engine α) (l : Store α) (t : Tree) (name : Text) (f : Fault) : Prop :=
  (engine.load t l name).1 = .error f

/-- A fault that leaves the loading of a template that is not known, without being said to be missing: the bytes of
its source are no text, the path of its name is too long to be looked at, or it is compiled with another fault than
those of templates. -/
def Escapes (engine : Engine α) (l : Store α) (t : Tree) (name : Text) (f : Fault) : Prop :=
  l.known.lookup name = none ∧ ∃ g, l.home.Passes engine.compile t name g ∧ f = loadFault g

theorem loadFails_of_template {g : LoadFault} (hknown : l.known.lookup name = none)
    (h : l.home.template engine.compile t name = .error g) : LoadFails engine l t name (loadFault g) := by
  have hload : l.load engine.compile t name = .error g := Store.load_eq_error_iff.2 ⟨hknown, h⟩
  unfold LoadFails
  rw [Engine.load_of_error hload]

/-- **A template is given** exactly if it is known, or else its name is that of a file with a source that
compiles. -/
theorem load_eq_ok_iff {a : α} :
    (engine.load t l name).1 = .ok a ↔
      l.known.lookup name = some a ∨
        l.known.lookup name = none ∧ ∃ text, l.home.Reads t name text ∧ engine.compile name text = .ok a := by
  have hfile : l.home.template engine.compile t name = .ok a ↔
      ∃ text, l.home.Reads t name text ∧ engine.compile name text = .ok a := by
    rw [Home.template_eq_ok_iff]
    simp only [Home.reads_iff, and_assoc, exists_and_left]
  rw [← hfile]
  constructor
  · intro h
    cases hload : l.load engine.compile t name with
    | error f =>
        rw [Engine.load_of_error hload] at h
        cases h
    | ok found =>
        rw [Engine.load_of_ok hload] at h
        cases h
        rcases Store.load_eq_ok_iff.1 hload with ⟨hknown, -⟩ | ⟨hknown, htemplate, -⟩
        · exact Or.inl hknown
        · exact Or.inr ⟨hknown, htemplate⟩
  · rintro (hknown | ⟨hknown, htemplate⟩)
    · rw [Engine.load_of_ok (Store.load_eq_ok_iff.2 (Or.inl ⟨hknown, rfl⟩))]
    · rw [Engine.load_of_ok (Store.load_eq_ok_iff.2 (Or.inr ⟨hknown, htemplate, rfl⟩))]

/-- **How the loading of a template ends**: with the template, as missing, or with a fault that escapes. -/
theorem load_cases (engine : Engine α) (l : Store α) (t : Tree) (name : Text) :
    (∃ a, (engine.load t l name).1 = .ok a) ∨ LoadFails engine l t name (.template (.str name) l.home.text) ∨
      ∃ f, LoadFails engine l t name f ∧ Escapes engine l t name f := by
  cases hknown : l.known.lookup name with
  | some a => exact Or.inl ⟨a, load_eq_ok_iff.2 (Or.inl hknown)⟩
  | none =>
      rcases l.home.template_cases engine.compile t name with ⟨a, htemplate⟩ | hmissing | ⟨g, hfault, hpasses⟩
      · rw [Home.template_eq_ok_iff] at htemplate
        obtain ⟨hfile, text, hsource, hcompile⟩ := htemplate
        exact Or.inl ⟨a, load_eq_ok_iff.2 (Or.inr ⟨hknown, text, Home.reads_iff.2 ⟨hfile, hsource⟩, hcompile⟩)⟩
      · exact Or.inr (Or.inl (loadFails_of_template hknown hmissing))
      · exact Or.inr (Or.inr ⟨loadFault g, loadFails_of_template hknown hfault, hknown, g, hpasses, rfl⟩)

theorem Escapes.loadFails {f : Fault} (h : Escapes engine l t name f) : LoadFails engine l t name f := by
  obtain ⟨hknown, g, hpasses, rfl⟩ := h
  exact loadFails_of_template hknown (Home.template_of_passes hpasses)

/-! ## Filling -/

/-- A template that cannot be loaded is not filled, for the same reason. -/
theorem fill_of_loadFails {f : Fault} (h : LoadFails engine l t name f) (values : Bindings) :
    (engine.fill t l name values).1 = .error f := by
  rw [Engine.fill_eq, h]
  rfl

/-- A template that is loaded is filled as far as it can be rendered. -/
theorem fill_of_load {a : α} (h : (engine.load t l name).1 = .ok a) (values : Bindings) :
    (engine.fill t l name values).1 = engine.render a (l.home.source t) values := by
  rw [Engine.fill_eq, h]
  rfl

/-- **How the loading of a template ends**, for every way to compile and render, every store, tree and name: with a
template, or as missing, or with a fault that escapes, and all that can escape does. A template is given exactly if
it is known, or else its name is that of a file where it is looked for, a text is found under it below the home, and
the text compiles. For a rooted name these are two files. The module of a step fails with the same faults, once what
its template is filled with is there. -/
theorem template_loading_ends (engine : Engine α) (l : Store α) (t : Tree) :
    (∀ name, ((∃ a, (engine.load t l name).1 = .ok a) ∨
        LoadFails engine l t name (.template (.str name) l.home.text) ∨
        ∃ f, LoadFails engine l t name f ∧ Escapes engine l t name f) ∧
      (∀ f, Escapes engine l t name f → LoadFails engine l t name f) ∧
      ∀ a, (engine.load t l name).1 = .ok a ↔
        l.known.lookup name = some a ∨
          l.known.lookup name = none ∧ ∃ text, l.home.Reads t name text ∧ engine.compile name text = .ok a) ∧
    ∀ (category : Text) (least key : Value) (s : Step) (r : Except Fault Text),
      (engine.fillWith t l (stepTemplate category)
        ((Generate.stepModule least key s).map Generate.StepModule.bindings)).1 = r →
      (∃ f, Generate.stepModule least key s = .error f ∧ r = .error (.value f)) ∨
      ∃ m, Generate.stepModule least key s = .ok m ∧
        ((∃ a, (engine.load t l (stepTemplate category)).1 = .ok a ∧
            r = engine.render a (l.home.source t) m.bindings) ∨
          ∃ f, LoadFails engine l t (stepTemplate category) f ∧ r = .error f) := by
  constructor
  · intro name
    exact ⟨load_cases engine l t name, fun f hf => hf.loadFails, fun a => load_eq_ok_iff⟩
  · intro category least key s r hr
    cases hmodule : Generate.stepModule least key s with
    | error f =>
        rw [hmodule] at hr
        exact Or.inl ⟨f, rfl, hr.symm⟩
    | ok m =>
        rw [hmodule] at hr
        have hfill : (engine.fill t l (stepTemplate category) m.bindings).1 = r := hr
        refine Or.inr ⟨m, rfl, ?_⟩
        rcases load_cases engine l t (stepTemplate category) with ⟨a, hload⟩ | hfails | ⟨f, hfails, -⟩
        · exact Or.inl ⟨a, hload, hfill.symm.trans (fill_of_load hload m.bindings)⟩
        · exact Or.inr ⟨_, hfails, hfill.symm.trans (fill_of_loadFails hfails m.bindings)⟩
        · exact Or.inr ⟨f, hfails, hfill.symm.trans (fill_of_loadFails hfails m.bindings)⟩

/-- A library in whose directory one template stands, of a single byte that begins no code point. -/
def brokenLibrary : Library := .ofHome (.directory (.ofText "t"))

/-- The tree of its directory. -/
def brokenTree : Tree :=
  (Tree.empty.place [] "t" .dir (by decide)).place ["t"] "trigger.js.j2" (.file [0xFF]) (by decide)

theorem brokenTemplate_escapes :
    LoadFails nodeEngine brokenLibrary brokenTree "trigger.js.j2" (.decoding ⟨[0xFF], 0, .start⟩) ∧
      (fillWith brokenTree brokenLibrary (stepTemplate "trigger")
        ((Generate.stepModule Generate.defaultLeast (.str "a") ⟨"a", [], []⟩).map
          Generate.StepModule.bindings)).1 = .error (.decoding ⟨[0xFF], 0, .start⟩) := by
  -- The name is that of a file, and its bytes are no text: the engine is not asked.
  have hstands : brokenTree.Holds (.ofText "t/trigger.js.j2") (.file [0xFF]) := Tree.stat?_eq_some_iff.1 rfl
  have hpasses : brokenLibrary.home.Passes nodeEngine.compile brokenTree "trigger.js.j2"
      (.decoding ⟨[0xFF], 0, .start⟩) :=
    ⟨⟨[0xFF], hstands⟩, ⟨by decide, by decide⟩, [0xFF], hstands, rfl⟩
  have hescapes : Escapes nodeEngine brokenLibrary brokenTree "trigger.js.j2" (.decoding ⟨[0xFF], 0, .start⟩) :=
    ⟨rfl, _, hpasses, rfl⟩
  have hfails := ((template_loading_ends nodeEngine brokenLibrary brokenTree).1 "trigger.js.j2").2.1 _ hescapes
  exact ⟨hfails, fill_of_loadFails hfails _⟩

end Conversion
end StepForge
