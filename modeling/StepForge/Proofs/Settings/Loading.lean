import StepForge.Proofs.Text.Literal
import StepForge.Proofs.Tree.Looking
import StepForge.Proofs.Yaml.Reading
import StepForge.Settings.File

/-!
# `StepForge.Proofs.Settings.Loading` — how the loading of settings ends

Settings that are not valid are said to be so: if a given file is missing, if it is malformed or no text, or if its
value is not what settings are. Four faults pass by: a path that is too long to be looked at, a directory in the place
of the file, whatever else the reader of YAML fails with, and a value of which it cannot be said what is wrong.
Nothing is asked of the reader, which is given the bytes of the file.

## Contents
- `IsUnsaid`, `Refuses`, `ofRead_cases` — the settings of a value that was read.
- `Gives`, `Escapes`, `load_cases` — how loading ends.
- `settings_loading_ends` — all of it, for every path and whatever stands there.
- `fileValue_of_encode`, `not_escapes_of_sound` — files as `Yaml.read` reads them, and those of which nothing escapes.
-/

namespace StepForge.Settings

variable {reader : List UInt8 → Except StreamFault Value} {t : Tree} {given : Option Path} {written : Text}
  {bytes : List UInt8}

/-! ## The settings of a value -/

/-- The value of a file has a fault in which an integer is too long to be put into words. -/
def IsUnsaid (v : Value) : Prop :=
  ∃ entries, v.unfolded = .map entries ∧ (faultsOf entries).any SettingFault.isLong = true

/-- Why the bytes of a file are refused with a fault that is not reported as one of the settings. -/
inductive Refuses (reader : List UInt8 → Except StreamFault Value) (bytes : List UInt8) : Fault → Prop
  | reading {f : Fault} (hread : reader bytes = .error (.other f)) : Refuses reader bytes f
  | unsaid {v : Value} (hread : reader bytes = .ok v) (hv : IsUnsaid v) : Refuses reader bytes (.value .long)

/-- What is wrong with the value of a setting is said. -/
theorem check_ne_unsaid (s : Setting) (v : Value) : s.check v ≠ some .unsaid := by
  unfold Setting.check
  repeat' split
  all_goals nofun

theorem mem_faultsOf_ne_unsaid {entries : List (Value × Value)} {f : SettingFault} (h : f ∈ faultsOf entries) :
    f ≠ .unsaid := by
  rintro rfl
  rcases List.mem_append.1 h with hunknown | hsetting
  · split at hunknown <;> simp at hunknown
  · obtain ⟨s, -, hcheck⟩ := List.mem_filterMap.1 hsetting
    obtain ⟨v, -, hfault⟩ := Option.bind_eq_some_iff.1 hcheck
    exact check_ne_unsaid s v hfault

theorem faultOf_eq_unsaid_iff {entries : List (Value × Value)} :
    faultOf entries = some .unsaid ↔ (faultsOf entries).any SettingFault.isLong = true := by
  unfold faultOf
  dsimp only
  constructor
  · intro h
    split at h
    · next hlong => exact hlong
    · exact absurd rfl (mem_faultsOf_ne_unsaid (List.mem_of_mem_head? h))
  · intro hlong
    rw [if_pos hlong]

/-- **What is wrong with settings cannot be said** exactly if an integer in it is too long. -/
theorem ofValue_eq_unsaid_iff {v : Value} : ofValue v = .error .unsaid ↔ IsUnsaid v := by
  unfold ofValue IsUnsaid
  split
  · next hnull => simp [hnull]
  · next entries hmap =>
      have hfault : faultOf entries = some .unsaid ↔ _ := faultOf_eq_unsaid_iff
      constructor
      · intro h
        split at h
        · next f hf =>
            cases h
            exact ⟨entries, hmap, hfault.1 hf⟩
        · cases h
      · rintro ⟨found, heq, hlong⟩
        cases hmap.symm.trans heq
        rw [hfault.2 hlong]
  · next hnull hmap =>
      refine iff_of_false nofun ?_
      rintro ⟨entries, heq, -⟩
      exact hmap entries heq

/-- The bytes of a file give settings, or a fault of them is reported, or the bytes are refused. -/
theorem ofRead_cases (reader : List UInt8 → Except StreamFault Value) (written : Text) (bytes : List UInt8) :
    (∃ v s, ofRead written (reader bytes) = .ok s ∧ reader bytes = .ok v ∧ ofValue v = .ok s) ∨
      (∃ details, ofRead written (reader bytes) = .error (.settings details)) ∨
      ∃ f, ofRead written (reader bytes) = .error f ∧ Refuses reader bytes f := by
  cases hread : reader bytes with
  | error g =>
      cases g with
      | malformed message => exact Or.inr (Or.inl ⟨_, rfl⟩)
      | undecodable f => exact Or.inr (Or.inl ⟨_, rfl⟩)
      | other f => exact Or.inr (Or.inr ⟨f, rfl, .reading hread⟩)
  | ok v =>
      unfold ofRead
      cases hv : ofValue v with
      | ok s => exact Or.inl ⟨v, s, by simp only [hv], rfl, hv⟩
      | error f =>
          -- A fault is put into words unless that fails itself.
          by_cases hf : f = .unsaid
          · subst hf
            exact Or.inr (Or.inr ⟨.value .long, by simp only [hv], .unsaid hread (ofValue_eq_unsaid_iff.1 hv)⟩)
          · refine Or.inr (Or.inl ⟨f.message, ?_⟩)
            simp only [hv]

theorem ofRead_of_refuses {f : Fault} (h : Refuses reader bytes f) : ofRead written (reader bytes) = .error f := by
  cases h with
  | reading hread =>
      rw [hread]
      rfl
  | unsaid hread hv =>
      rw [hread, ofRead]
      simp only [ofValue_eq_unsaid_iff.2 hv]

/-! ## Loading -/

/-- The settings that a file gives, or the default ones where no file is given and none is found. -/
inductive Gives (reader : List UInt8 → Except StreamFault Value) (t : Tree) (given : Option Path) : Settings → Prop
  | default (hgiven : given = none) (hnothing : ∀ e, ¬ t.Holds (place given).1 e) : Gives reader t given {}
  | file {bytes : List UInt8} {v : Value} {s : Settings} (hfile : t.Holds (place given).1 (.file bytes))
      (hread : reader bytes = .ok v) (hv : ofValue v = .ok s) : Gives reader t given s

/-- A fault that leaves the loading of settings without being reported as one of the settings: the path that is given
is too long to be looked at, a directory stands there, or the bytes of the file are refused. -/
inductive Escapes (reader : List UInt8 → Except StreamFault Value) (t : Tree) (given : Option Path) : Fault → Prop
  | tooLong {p : Path} (hgiven : given = some p) (hask : p.Askable) (hlong : t.TooLong p) :
      Escapes reader t given (.file (.system .nameTooLong p))
  | directory (hdir : t.Holds (place given).1 .dir) :
      Escapes reader t given (.file (.system .isDirectory ⟨false, [(place given).2]⟩))
  | file {bytes : List UInt8} {f : Fault} (hfile : t.Holds (place given).1 (.file bytes))
      (hrefuses : Refuses reader bytes f) : Escapes reader t given f

theorem load_of_tooLong {f : FileFault} (h : t.stat? (place given).1 = .error f) :
    loadWith reader t given = .error (.file f) := by
  unfold loadWith
  simp only [h]

theorem load_of_nothing (h : t.stat? (place given).1 = .ok none) :
    loadWith reader t given =
      if given.isNone then .ok ({}, ("No " : Text) ++ fileName ++ " found, using defaults")
      else .error (.settings (("file not found: " : Text) ++ (place given).2)) := by
  unfold loadWith
  simp only [h]

theorem load_of_dir (h : t.Holds (place given).1 .dir) :
    loadWith reader t given = .error (.file (.system .isDirectory ⟨false, [(place given).2]⟩)) := by
  unfold loadWith
  simp only [Tree.stat?_eq_some_iff.2 h, Tree.readBytes_of_dir h]
  rfl

theorem load_of_file (h : t.Holds (place given).1 (.file bytes)) :
    loadWith reader t given = (ofRead (place given).2 (reader bytes)).map fun s =>
      (s, ("Loaded configuration from " : Text) ++ (place given).2) := by
  unfold loadWith
  simp only [Tree.stat?_eq_some_iff.2 h, Tree.readBytes_eq_ok_iff.2 h]
  cases ofRead (place given).2 (reader bytes) with
  | ok s => rfl
  | error f => rfl

/-- The path of the default name is short. -/
theorem place_none_short (t : Tree) : ¬ t.TooLong (place none).1 := by
  refine Tree.not_tooLong ?_ ?_
  · decide
  · decide

/-- **How the loading of settings ends**: with settings, with a fault of them, or with a fault that escapes. -/
theorem load_cases (reader : List UInt8 → Except StreamFault Value) (t : Tree) (given : Option Path) :
    (∃ s note, loadWith reader t given = .ok (s, note) ∧ Gives reader t given s) ∨
      (∃ details, loadWith reader t given = .error (.settings details)) ∨
      ∃ f, loadWith reader t given = .error f ∧ Escapes reader t given f := by
  cases hstat : t.stat? (place given).1 with
  | error f =>
      obtain ⟨rfl, hask, hlong⟩ := Tree.stat?_eq_error_iff.1 hstat
      cases given with
      | none => exact absurd hlong (place_none_short t)
      | some p => exact Or.inr (Or.inr ⟨_, load_of_tooLong hstat, .tooLong rfl hask hlong⟩)
  | ok seen =>
      cases seen with
      | none =>
          have hload := @load_of_nothing reader t given hstat
          cases given with
          | some p => exact Or.inr (Or.inl ⟨_, hload⟩)
          | none =>
              refine Or.inl ⟨_, _, hload, .default rfl fun e he => ?_⟩
              cases hstat.symm.trans (Tree.stat?_eq_some_iff.2 he)
      | some e =>
          have hholds := Tree.stat?_eq_some_iff.1 hstat
          cases e with
          | dir => exact Or.inr (Or.inr ⟨_, load_of_dir hholds, .directory hholds⟩)
          | file bytes =>
              rw [load_of_file hholds]
              rcases ofRead_cases reader (place given).2 bytes with
                ⟨v, s, hs, hread, hv⟩ | ⟨details, hs⟩ | ⟨f, hs, hrefuses⟩
              · rw [hs]
                exact Or.inl ⟨s, _, rfl, .file hholds hread hv⟩
              · rw [hs]
                exact Or.inr (Or.inl ⟨details, rfl⟩)
              · rw [hs]
                exact Or.inr (Or.inr ⟨f, rfl, .file hholds hrefuses⟩)

theorem load_of_escapes {f : Fault} (h : Escapes reader t given f) : loadWith reader t given = .error f := by
  cases h with
  | tooLong hgiven hask hlong =>
      subst hgiven
      exact load_of_tooLong (Tree.stat?_eq_error_iff.2 ⟨rfl, hask, hlong⟩)
  | directory hdir => exact load_of_dir hdir
  | file hfile hrefuses =>
      rw [load_of_file hfile, ofRead_of_refuses hrefuses]
      rfl

theorem load_of_gives {s : Settings} (h : Gives reader t given s) :
    ∃ note, loadWith reader t given = .ok (s, note) := by
  cases h with
  | default hgiven hnothing =>
      subst hgiven
      have hstat : t.stat? (place none).1 = .ok none := by
        cases hstat : t.stat? (place none).1 with
        | error f => exact absurd (Tree.stat?_eq_error_iff.1 hstat).2.2 (place_none_short t)
        | ok seen =>
            cases seen with
            | none => rfl
            | some e => exact absurd (Tree.stat?_eq_some_iff.1 hstat) (hnothing e)
      exact ⟨_, load_of_nothing hstat⟩
  | file hfile hread hv =>
      rw [load_of_file hfile, hread, ofRead]
      simp only [hv]
      exact ⟨_, rfl⟩

/-- A fault that escapes is none of the library, unless the reader fails with one. -/
theorem Escapes.isOwn (hreader : ∀ bytes f, reader bytes = .error (.other f) → f.isOwn = false) {f : Fault}
    (h : Escapes reader t given f) : f.isOwn = false := by
  cases h with
  | tooLong _ _ _ => rfl
  | directory _ => rfl
  | file _ hrefuses =>
      cases hrefuses with
      | reading hread => exact hreader _ _ hread
      | unsaid _ _ => rfl

/-- **How the loading of settings ends**, for every reader of YAML, every path, given or not, and whatever stands there:
with settings, with a fault of them, or with a fault that escapes. Settings are given exactly if a file holds them, or
if none is given and none is found. All that can escape does: that a given path is too long to be looked at, that a
directory stands there, what the reader fails with if it says neither that the file is malformed nor that its bytes are
no text, and that an integer of a fault is too long to be put into words. It is no fault of the library unless the
reader has one. A reader can also fail where an interpreter reaches its recursion limit; in what is done with the value
behind it that limit is left out. -/
theorem settings_loading_ends (reader : List UInt8 → Except StreamFault Value) (t : Tree) (given : Option Path) :
    ((∃ s note, loadWith reader t given = .ok (s, note) ∧ Gives reader t given s) ∨
        (∃ details, loadWith reader t given = .error (.settings details)) ∨
        ∃ f, loadWith reader t given = .error f ∧ Escapes reader t given f) ∧
      (∀ s, (∃ note, loadWith reader t given = .ok (s, note)) ↔ Gives reader t given s) ∧
      (∀ f, Escapes reader t given f → loadWith reader t given = .error f) ∧
      ((∀ bytes f, reader bytes = .error (.other f) → f.isOwn = false) →
        ∀ f, Escapes reader t given f → f.isOwn = false) := by
  refine ⟨load_cases reader t given, fun s => ⟨?_, load_of_gives⟩, fun f hf => load_of_escapes hf,
    fun hreader f hf => hf.isOwn hreader⟩
  rintro ⟨note, hload⟩
  rcases load_cases reader t given with ⟨r, other, hr, hgives⟩ | ⟨details, hr⟩ | ⟨f, hr, -⟩
  · cases hload.symm.trans hr
    exact hgives
  · cases hload.symm.trans hr
  · rw [hload] at hr
    cases hr

/-- A tree with a directory in the place of the file. -/
def occupiedTree : Tree := Tree.empty.place [] fileName .dir (by decide)

theorem occupied_escapes :
    load occupiedTree none = .error (.file (.system .isDirectory ⟨false, [("<CWD>/app-convert.yaml" : Text)]⟩)) := by
  have hdir : occupiedTree.Holds (place none).1 .dir := Tree.stat?_eq_some_iff.1 rfl
  exact (settings_loading_ends fileValue occupiedTree none).2.2.1 _ (.directory hdir)

/-! ## Sound texts -/

/-- The bytes of a text are read as the text is. -/
theorem fileValue_of_encode {source : Text} (h : Utf8.encode source = .ok bytes) :
    fileValue bytes = (Yaml.read (Utf8.universalLines source)).mapError .ofYaml := by
  unfold fileValue
  rw [Utf8.decode_eq_ok_iff.2 h]

/-- As `Yaml.read` reads it, nothing escapes of a file whose text can be at fault in its structure alone, unless an
integer in it is too long to be put into words. -/
theorem not_escapes_of_sound {text : Text} (htext : t.HoldsText (place given).1 text) (hsound : Yaml.Sound text)
    (hsaid : ∀ v, Yaml.read text = .ok v → ¬ IsUnsaid v) (f : Fault) : ¬ Escapes fileValue t given f := by
  obtain ⟨bytes, source, hfile, hsource, rfl⟩ := htext
  have hvalue := fileValue_of_encode hsource
  intro hescapes
  cases hescapes with
  | tooLong hgiven hask hlong =>
      subst hgiven
      have hstat := Tree.stat?_eq_error_iff.2 ⟨rfl, hask, hlong⟩
      cases (Tree.stat?_eq_some_iff.2 hfile).symm.trans hstat
  | directory hdir => cases hfile.unique hdir
  | file hother hrefuses =>
      cases hfile.unique hother
      cases hrefuses with
      | reading hread =>
          rw [hvalue] at hread
          cases hyaml : Yaml.read (Utf8.universalLines source) with
          | error g =>
              obtain rfl := hsound.eq_malformed hyaml
              rw [hyaml] at hread
              cases hread
          | ok v =>
              rw [hyaml] at hread
              cases hread
      | unsaid hread hv =>
          rw [hvalue] at hread
          exact hsaid _ (mapError_eq_ok_iff.1 hread) hv

end StepForge.Settings
