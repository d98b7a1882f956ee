import StepForge.Console.Progress
import StepForge.Proofs.Console.Markup
import StepForge.Proofs.Conversion.Places
import StepForge.Proofs.Text.Utf8

/-!
# `StepForge.Proofs.Conversion.Confinement` — no key leads out of its directory

A key is free text. What is left of it in the name of a file went through the tables of letters, digits and
small letters, and those hold no mark that a path or a report would take for its own. So the file of a step
stands directly in the directory of its category, and the report of it shows its name as it is.

## Contents
- `isMark`, `isSafe` — what names of steps never hold, and what they may hold.
- `isSafe_snakeCase` — all that is left of a key is safe.
- `shown_writtenMarkup` — the report of a file whose name is safe.
- `step_confined` — where the file of a step stands.
-/

namespace StepForge

namespace Naming

/-! ## Marks -/

/-- Slash, backslash, dot, NUL, square brackets, colon and the quotes, typographic ones included. -/
def marks : List Nat :=
  ['/'.toNat, '\\'.toNat, '.'.toNat, 0, '['.toNat, ']'.toNat, ':'.toNat, '\''.toNat, '"'.toNat, 0x60,
   0xAB, 0xBB, 0x2018, 0x2019, 0x201A, 0x201B, 0x201C, 0x201D, 0x201E, 0x201F, 0x2039, 0x203A]

/-- A mark that means something to a path, a report or a program, or a blank. -/
def isMark (c : CodePoint) : Bool := marks.contains c || Text.isBlank c

/-- Neither a mark nor a blank, and with a form in bytes. -/
def isSafe (c : CodePoint) : Bool := !isMark c && (Utf8.encodePoint? c).isSome

/-- The ideographic space, behind which there are no marks or blanks any more. -/
def lastMark : Nat := 0x3000

/-- Whether all code points from `first` to `last` are of that kind. -/
def isSafeRange (first last : Nat) : Bool :=
  (last < 0xD800 || 0xDFFF < first && last < 0x110000)
    && (lastMark < first || marks.all (fun m => last < m || m < first)
      && Text.blankRuns.all fun r => last < r.first || r.last < first)

theorem isSafe_of_isSafeRange (a b c : Nat) (h : isSafeRange a b = true) (ha : a ≤ c) (hb : c ≤ b) :
    isSafe c = true := by
  simp only [isSafeRange, Bool.and_eq_true, Bool.or_eq_true, decide_eq_true_eq, List.all_eq_true] at h
  obtain ⟨hform, hapart⟩ := h
  have hmark : marks.contains c = false := by
    refine Bool.eq_false_iff.2 fun hc => ?_
    have hmem : c ∈ marks := List.contains_iff_mem.1 hc
    have hlast : ∀ m ∈ marks, m ≤ lastMark := by decide
    have hle := hlast c hmem
    rcases hapart with hbehind | ⟨hmarks, _⟩
    · omega
    · have hout := hmarks c hmem
      omega
  have hblank : Text.isBlank c = false := by
    refine Bool.eq_false_iff.2 fun hc => ?_
    obtain ⟨r, hr, (hfirst : r.first ≤ c), (hend : c ≤ r.last)⟩ := Text.exists_run_of_inRuns hc
    have hlast : ∀ r ∈ Text.blankRuns, r.last ≤ lastMark := by decide
    have hle := hlast r hr
    rcases hapart with hbehind | ⟨_, hblanks⟩
    · omega
    · have hout := hblanks r hr
      omega
  unfold isSafe isMark
  have hscalar : c < 0xD800 ∨ 0xDFFF < c ∧ c < 0x110000 := by omega
  rw [hmark, hblank, Utf8.encodePoint?_isSome_iff.2 hscalar]
  rfl

/-! ## What is left of a key -/

/-- **What takes part in a word is safe**, in the whole of the tables. -/
theorem isSafe_of_class {c : CodePoint} (h : CharClass.of c ≠ .separator) : isSafe c = true :=
  of_class (P := (isSafe · = true)) isSafe_of_isSafeRange (by decide +kernel) h

theorem isSafe_lowerLetter {c : CodePoint} (hc : isSafe c = true) : ∀ d ∈ Text.lowerLetter c, isSafe d = true :=
  of_mem_lowerLetter (P := (isSafe · = true)) isSafe_of_isSafeRange (by decide +kernel) (by decide) hc

/-- **A name in snake case** is safe, whatever text it is made of. -/
theorem isSafe_snakeCase (key : Text) : ∀ c ∈ snakeCase key, isSafe c = true :=
  of_mem_snakeCase (P := (isSafe · = true)) (by decide)
    (fun _ _ => of_mem_smallWords (fun _ => isSafe_of_class) (fun _ => isSafe_lowerLetter) (by decide)) key

theorem ne_of_isSafe {c m : CodePoint} (hc : isSafe c = true) (hm : isMark m = true) : c ≠ m := by
  rintro rfl
  unfold isSafe at hc
  rw [hm] at hc
  cases hc

end Naming

namespace Console

/-! ## Reports -/

/-- **The report of a file** shows its name as it is, if that holds no bracket, backslash or hidden control. -/
theorem shown_writtenMarkup {file : Text} (hplain : ∀ c ∈ file, c ≠ '['.toNat ∧ c ≠ '\\'.toNat)
    (hvisible : ∀ c ∈ file, isHidden c = false) :
    shown (writtenMarkup file) = .ok (("  Writing " : Text) ++ file ++ (" ✓" : Text)) := by
  have hfront : ∀ c ∈ ("  Writing " : Text) ++ file ++ (" " : Text), c ≠ '['.toNat ∧ c ≠ '\\'.toNat := by
    rw [List.forall_mem_append, List.forall_mem_append]
    exact ⟨⟨by decide, hplain⟩, by decide⟩
  have hmarkup : writtenMarkup file =
      (("  Writing " : Text) ++ file ++ (" " : Text)) ++ '['.toNat :: (("green" : Text) ++ ']'.toNat ::
        (("✓" : Text) ++ '['.toNat :: '/'.toNat :: (("green" : Text) ++ ']'.toNat :: []))) := by
    have hend : (" [green]✓[/green]" : Text) = (" " : Text) ++ '['.toNat :: (("green" : Text) ++ ']'.toNat ::
        (("✓" : Text) ++ '['.toNat :: '/'.toNat :: (("green" : Text) ++ ']'.toNat :: []))) := by decide
    rw [writtenMarkup, hend]
    simp
  have hgreen : IsStyleName "green" := isStyleName_of_mem (by decide)
  have hshown : shownFrom 0 0 {} (writtenMarkup file) =
      .ok ⟨("  Writing " : Text) ++ file ++ (" " : Text) ++ (("✓" : Text) ++ []), none⟩ := by
    rw [hmarkup, shownFrom_plain hfront, shownFrom_open hgreen, shownFrom_plain (by decide),
      shownFrom_close hgreen]
    rfl
  have hall : ∀ c ∈ ("  Writing " : Text) ++ file ++ (" ✓" : Text), isHidden c = false := by
    rw [List.forall_mem_append, List.forall_mem_append]
    exact ⟨⟨by decide, hvisible⟩, by decide⟩
  have htext : ("  Writing " : Text) ++ file ++ (" " : Text) ++ (("✓" : Text) ++ []) =
      ("  Writing " : Text) ++ file ++ (" ✓" : Text) := by
    rw [List.append_nil, List.append_assoc _ _ ("✓" : Text)]
    rfl
  unfold shown unfolded
  rw [hshown, htext]
  show Except.ok (visible _) = _
  rw [visible_eq_self hall]

end Console

namespace Conversion

open Naming

/-! ## The file of a step -/

theorem stepFileName_parts (c : Category) (key : Text) :
    Generate.stepFileName c key = c.directory ++ ("/" : Text) ++ snakeCase key ++ (".js" : Text) := by
  rw [stepFileName_eq, Text.join_cons_cons, Text.join_singleton, stepName, ← List.append_assoc]

/-- The name of a step's file holds no bracket, backslash or hidden control. -/
theorem stepFileName_plain (c : Category) (key : Text) :
    ∀ d ∈ Generate.stepFileName c key, (d ≠ '['.toNat ∧ d ≠ '\\'.toNat) ∧ Console.isHidden d = false := by
  have hkey : ∀ d ∈ snakeCase key, (d ≠ '['.toNat ∧ d ≠ '\\'.toNat) ∧ Console.isHidden d = false := by
    intro d hd
    have hsafe := isSafe_snakeCase key d hd
    refine ⟨⟨ne_of_isSafe hsafe (by decide), ne_of_isSafe hsafe (by decide)⟩, Bool.eq_false_iff.2 fun hhidden => ?_⟩
    have hcontrols : ((d = 7 ∨ d = 8) ∨ d = 11) ∨ d = 12 ∨ d = 13 := by
      simpa [Console.isHidden, or_assoc] using hhidden
    rcases mem_snakeCase hd with rfl | hpoint
    · revert hhidden
      decide
    · rcases hcontrols with ((rfl | rfl) | rfl) | rfl | rfl
      all_goals revert hpoint; decide
  have hdirectory : ∀ d ∈ c.directory ++ ("/" : Text),
      (d ≠ '['.toNat ∧ d ≠ '\\'.toNat) ∧ Console.isHidden d = false := by
    cases c <;> decide
  rw [stepFileName_parts, List.forall_mem_append, List.forall_mem_append]
  exact ⟨⟨hdirectory, hkey⟩, by decide⟩

theorem div_directory (out : Path) (c : Category) : out / c.directory = out.below c.directory := by
  have h : Path.ofText c.directory = ⟨false, [c.directory]⟩ := by cases c <;> decide
  show out.join (.ofText _) = _
  rw [h, Path.join_relative]
  rfl

theorem place_directory (out : Path) (c : Category) : (out / c.directory).place = stepDirectory out c := by
  rw [div_directory, Path.place_below (directory_ne_back c)]
  rfl

/-- Only the directory of its own category leads to a step. -/
theorem not_stepDirectory_prefix {c d : Category} (h : d ≠ c) (out : Path) (key : Text) :
    ¬ stepDirectory out d <+: stepDirectory out c ++ [stepName key] := by
  intro hfix
  have heq : d.directory = c.directory := by simpa [stepDirectory] using hfix
  exact h (directory_injective heq)

/-- **A step stays in the directory of its category.** Whatever the key holds, the file planned for a step is
`triggers/`, `searches/` or `writes/`, as the category says, with a stem that holds no mark or blank, and
`.js` behind it. Below every output directory it stands directly in that directory: it is neither the index
nor the manifest, and no directory of another category leads to it. The report of the file shows its name
as it is. -/
theorem step_confined {app : App} {task : Task} {c : Category} {key : Text} {s : Step} (hmem : task ∈ plan app)
    (hstep : task.artifact = .step c key s) :
    ∃ stem : Text,
      task.fileName = c.directory ++ ("/" : Text) ++ stem ++ (".js" : Text) ∧
      (c, c.directory) ∈ ([(.trigger, "triggers"), (.search, "searches"), (.write, "writes")] :
        List (Category × Text)) ∧
      (∀ d ∈ stem, isMark d = false) ∧
      (∀ out : Path,
        task.path out = (out / c.directory).below (stem ++ (".js" : Text)) ∧
        (task.path out).parent = out / c.directory ∧
        task.place out = (out / c.directory).place ++ [stem ++ (".js" : Text)] ∧
        task.place out ≠ (out / ("index.js" : Text)).place ∧
        task.place out ≠ (out / ("package.json" : Text)).place ∧
        ∀ d, d ≠ c → ¬ (out / d.directory).place <+: task.place out) ∧
      Console.shown (Console.writtenMarkup task.fileName) =
        .ok (("  Writing " : Text) ++ task.fileName ++ (" ✓" : Text)) := by
  have htask : task = ⟨Generate.stepFileName c key, .step c key s⟩ := by
    rcases mem_plan.1 hmem with ⟨d, other, t, _, rfl⟩ | rfl | rfl
    · cases hstep
      rfl
    · cases hstep
    · cases hstep
  subst htask
  refine ⟨snakeCase key, stepFileName_parts c key, ?_, ?_, ?_, ?_⟩
  · cases c <;> simp [Category.directory]
  · intro d hd
    refine Bool.eq_false_iff.2 fun hmark => ?_
    exact ne_of_isSafe (isSafe_snakeCase key d hd) hmark rfl
  · intro out
    have hpath : out / Generate.stepFileName c key = (out / c.directory).below (stepName key) := by
      rw [div_stepFileName, div_directory]
    have hplace : (out / Generate.stepFileName c key).place = (out / c.directory).place ++ [stepName key] := by
      rw [hpath, Path.place_below (stepName_ne_back key)]
    refine ⟨hpath, ?_, hplace, ?_, ?_, ?_⟩
    · show (out / Generate.stepFileName c key).parent = _
      rw [hpath]
      simp [Path.parent, Path.below]
    · show (out / Generate.stepFileName c key).place ≠ _
      rw [place_stepFileName, place_index]
      simp
    · show (out / Generate.stepFileName c key).place ≠ _
      rw [place_stepFileName, place_manifest]
      simp
    · intro d hd
      show ¬ _ <+: (out / Generate.stepFileName c key).place
      rw [hplace, place_directory, place_directory]
      exact not_stepDirectory_prefix hd out key
  · exact Console.shown_writtenMarkup (fun d hd => (stepFileName_plain c key d hd).1)
      fun d hd => (stepFileName_plain c key d hd).2

/-- A key that tries to climb out of its directory and to write on the console in red. -/
def climbing : Text := "../../[red]index\u0000.js' \n"

/-- An app with one step under that key. -/
def climbingApp : App where
  title := []
  description := []
  triggers := [(climbing, ⟨climbing, [], []⟩)]
  searches := []
  actions := []

/-- The file of that step stands among the triggers. -/
theorem climbing_confined :
    ∃ stem : Text,
      Generate.stepFileName .trigger climbing = ("triggers/" : Text) ++ stem ++ (".js" : Text) ∧
      (∀ d ∈ stem, isMark d = false) ∧
      ((Path.here / Generate.stepFileName .trigger climbing).place =
        [("triggers" : Text), stem ++ (".js" : Text)]) := by
  have hplanned : ⟨Generate.stepFileName .trigger climbing, .step .trigger climbing ⟨climbing, [], []⟩⟩ ∈
      plan climbingApp := mem_plan.2 (Or.inl ⟨_, _, _, List.mem_cons_self .., rfl⟩)
  obtain ⟨stem, hname, _, hmarks, hplaces, _⟩ := step_confined hplanned rfl
  refine ⟨stem, hname, hmarks, ?_⟩
  obtain ⟨_, _, hplace, _⟩ := hplaces Path.here
  exact hplace

end Conversion

end StepForge
