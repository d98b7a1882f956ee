import StepForge.Proofs.Command.Endings
import StepForge.Proofs.Conversion.Index
import StepForge.Proofs.Conversion.Manifest
import StepForge.Proofs.Conversion.StepText
import StepForge.Proofs.Conversion.Succeeded

/-!
# `StepForge.Proofs.Command.Commits` — exit codes and trees

A conversion is all or nothing up to the moment at which its files are written: it shows by its exit code that it
did not come so far, and then the tree is as it was. An exit code of zero says that all steps behind that moment
ended well, the reports among them, so every planned file is complete. And a conversion whose files can be rendered
and written does exit with zero, if its reports tell plain texts.

## Contents
- `begun_fails`, `exit_of_begun` — a conversion that does not come to its files.
- `exit_of_ready` — a conversion that exits with zero.
- `convert_commits` — the exit code of a conversion, and its tree.
-/

namespace StepForge.Command

open Conversion

section Parts

variable {definition out : Path} {config : Option Path} {workers : Option Int} {verbose : Bool}
  {settings : Settings} {app : App} {s t : Shell}

/-- An exit code of zero is that of an act that ended well. -/
theorem on_of_exit_zero {act : Act Unit} {s : Shell} (h : ((handled act).run s).1.exit = 0) :
    on act s = (.ok (), ((handled act).run s).2) := by
  rw [on_handled] at h ⊢
  generalize on act s = p at h ⊢
  obtain ⟨r, t⟩ := p
  cases r with
  | ok u => rfl
  | error f =>
      exfalso
      dsimp only at h
      generalize on (reportFault f) t = q at h
      obtain ⟨r, u⟩ := q
      cases r with
      | ok v => cases h
      | error g => cases h

/-- Whether a conversion comes to the moment at which its files are written: no path holds a null character, its
settings and its app are loaded, and its beginning is reported. -/
def Enters (definition out : Path) (config : Option Path) (workers : Option Int) (verbose : Bool) (s : Shell) : Prop :=
  ((Request.convert definition out config workers verbose).paths.any fun p => p.names.any (·.contains 0)) = false ∧
    ∃ read t, on (begun definition config verbose) s = (.ok read, t)

/-- What keeps a conversion from writing files: settings or an app that cannot be loaded, or a report of its
beginning that fails. -/
theorem begun_fails (hnull : ((Request.convert definition out config workers verbose).paths.any
      fun p => p.names.any (·.contains 0)) = false)
    (hfails : (∃ f, Settings.load s.tree config = .error f) ∨ (∃ f, Definition.loadApp s.tree definition = .error f) ∨
      ¬ Enters definition out config workers verbose s) :
    ∃ f t, on (begun definition config verbose) s = (.error f, t) := by
  rcases hfails with ⟨f, hf⟩ | ⟨f, hf⟩ | hnot
  · exact ⟨f, begun_of_settings hf definition verbose⟩
  · exact begun_of_app hf config verbose
  · rcases hon : on (begun definition config verbose) s with ⟨result, t⟩
    cases result with
    | error f => exact ⟨f, t, rfl⟩
    | ok read => exact absurd ⟨hnull, read, t, hon⟩ hnot

/-- A conversion that does not come to its files shows that by its exit code, and leaves the tree as it was. -/
theorem exit_of_begun {f : Fault} (h : on (begun definition config verbose) s = (.error f, t)) (out : Path)
    (workers : Option Int) :
    ((handled (convert definition out config workers verbose)).run s).1.exit ≠ 0 ∧
      ((handled (convert definition out config workers verbose)).run s).2.tree = s.tree := by
  have hconvert : on (convert definition out config workers verbose) s = (.error f, t) := by
    rw [convert_eq_bind, on_bind_of_error h]
  obtain ⟨hexit, htree⟩ := exit_of_error hconvert
  exact ⟨hexit, htree.trans ((keepsTree_begun definition config verbose).tree_eq h)⟩

/-- **A conversion of what can be rendered and written** exits with zero, if its reports tell plain texts. -/
theorem exit_of_ready {words : List Text} {message noteOfApp : Text}
    (hparse : parse words = some (.convert definition out config workers verbose))
    (hnull : ((Request.convert definition out config workers verbose).paths.any
      fun p => p.names.any (·.contains 0)) = false)
    (hsettings : Settings.load s.tree config = .ok (settings, message))
    (happ : Definition.loadApp s.tree definition = .ok (app, noteOfApp))
    (hworkers : workersFault (Conversion.workers settings (workersGiven workers)) = none)
    (hready : Ready app settings out ⟨s.tree, Template.Library.standard, []⟩)
    (htold : ∀ text ∈ (Request.convert definition out config workers verbose).told s.tree, Console.Plain text)
    (hs : Clear s) : ((run words).run s).1.exit = 0 := by
  have hwork : (Request.convert definition out config workers verbose).work s.tree = .ok () := by
    rw [work_of_loaded hsettings happ, (convert_written hworkers hready).1]
    rfl
  -- The work is done, so there is no fault whose text would have to be plain.
  have hplain : PlainRequest (.convert definition out config workers verbose) s.tree := by
    refine ⟨htold, fun f hf => ?_⟩
    rw [hwork] at hf
    cases hf
  obtain ⟨t, hon, _⟩ := on_convert_told hplain hs
  rw [hwork] at hon
  have hrun : (run words).run s = (handled (convert definition out config workers verbose)).run s :=
    congrArg (·.run s) (run_of_parse hparse hnull)
  rw [hrun, handled_of_ok hon]

end Parts

/-- **The exit code of a conversion and its tree.** Whatever stands in the tree: if the settings or the app
cannot be loaded, or the conversion ends before its files are written, the exit code is not zero and the tree
is as it was. If the exit code is zero, the settings and the app were loaded, and with one worker every planned
file holds what the last task of its name renders with these settings, and elsewhere nothing has changed, but
that directories that lead to planned files were made where nothing stood. -/
theorem convert_commits {words : List Text} {definition out : Path} {config : Option Path} {workers : Option Int}
    {verbose : Bool} (hparse : parse words = some (.convert definition out config workers verbose)) (s : Shell) :
    let r := (run words).run s
    ((∃ f, Settings.load s.tree config = .error f) ∨ (∃ f, Definition.loadApp s.tree definition = .error f) ∨
        ¬ Enters definition out config workers verbose s →
      r.1.exit ≠ 0 ∧ r.2.tree = s.tree) ∧
    (r.1.exit = 0 → ∃ settings app, (∃ message, Settings.load s.tree config = .ok (settings, message)) ∧
      (∃ message, Definition.loadApp s.tree definition = .ok (app, message)) ∧
      (Conversion.workers settings (workersGiven workers) = .int 1 →
        (∀ task ∈ plan app, ∃ last bytes, lastNamed (plan app) task.fileName = some last ∧
          last.artifact.bytes app settings s.tree Template.Library.standard = .ok bytes ∧
          r.2.tree.at? (out / task.fileName).place = some (.file bytes)) ∧
        ∀ l, (∀ task ∈ plan app, l ≠ (out / task.fileName).place) →
          r.2.tree.at? l = s.tree.at? l ∨
            s.tree.at? l = none ∧ r.2.tree.at? l = some .dir ∧
              ∃ task ∈ plan app, l ∈ (out / task.fileName).ancestors)) := by
  intro r
  by_cases hnull : ((Request.convert definition out config workers verbose).paths.any
      fun p => p.names.any (·.contains 0)) = true
  · have hrun : r = (⟨1, some (.file .nullCharacter)⟩, s) := congrArg (·.run s) (run_of_null hparse hnull)
    rw [hrun]
    exact ⟨fun _ => ⟨by simp, rfl⟩, fun h => by cases h⟩
  · rw [Bool.not_eq_true] at hnull
    have hrun : r = (handled (convert definition out config workers verbose)).run s :=
      congrArg (·.run s) (run_of_parse hparse hnull)
    rw [hrun]
    refine ⟨?_, ?_⟩
    · intro hfails
      obtain ⟨f, t, hbegun⟩ := begun_fails hnull hfails
      exact exit_of_begun hbegun out workers
    · intro hzero
      obtain ⟨settings, app, written, hsettings, happ, hconvert, htree⟩ := on_convert_ok (on_of_exit_zero hzero)
      refine ⟨settings, app, hsettings, happ, fun _ => ?_⟩
      have hfiles := convert_files hconvert Template.Library.honest_standard
      rw [← htree] at hfiles
      exact hfiles

/-! ## A run that does not come to its files, and one that writes them -/

/-- The words of a conversion on one worker. -/
def onOneWorker : List Text := ["convert", "app.json", "out", "--workers", "1"]

/-- A definition with one trigger. -/
def leadTree : Tree :=
  Template.withFile Tree.empty (.ofText "app.json") "\x7b\"triggers\": \x7b\"lead\": \x7b\x7d\x7d\x7d"

/-- Its app. -/
def leadApp : App where
  title := []
  description := []
  triggers := [("lead", ⟨"lead", [], []⟩)]
  searches := []
  actions := []

theorem load_leadTree : ∃ message, Settings.load leadTree none = .ok ({}, message) := by
  have hmissing : (leadTree.stat? (Settings.place none).1).toOption = some none := by decide +kernel
  unfold Settings.load Settings.loadWith
  cases hstat : leadTree.stat? (Settings.place none).1 with
  | error f =>
      rw [hstat] at hmissing
      cases hmissing
  | ok found =>
      rw [hstat] at hmissing
      cases Option.some.inj hmissing
      exact ⟨_, rfl⟩

/-- What the definition holds. -/
theorem loadApp_leadTree : ∃ message, Definition.loadApp leadTree (.ofText "app.json") = .ok (leadApp, message) := by
  have hempty : (Definition.loadApp leadTree (.ofText "app.json")).toOption.map (fun r =>
      (r.1.title.length, r.1.description.length, r.1.searches.length, r.1.actions.length)) = some (0, 0, 0, 0) := by
    decide +kernel
  have htriggers : (Definition.loadApp leadTree (.ofText "app.json")).toOption.map (fun r =>
      r.1.triggers.map fun e => (e.1, e.2.key, e.2.fields.length, e.2.samples.length)) =
        some [(("lead" : Text), ("lead" : Text), 0, 0)] := by
    decide +kernel
  -- Apps cannot be compared by computation, so the app is put together from its parts.
  cases hload : Definition.loadApp leadTree (.ofText "app.json") with
  | error f =>
      rw [hload] at hempty
      cases hempty
  | ok made =>
      obtain ⟨⟨title, description, triggers, searches, actions⟩, message⟩ := made
      rw [hload] at hempty htriggers
      simp only [Except.toOption, Option.map_some, Option.some.injEq, Prod.mk.injEq,
        List.length_eq_zero_iff] at hempty
      simp only [Except.toOption, Option.map_some, Option.some.injEq, List.map_eq_singleton_iff, Prod.mk.injEq,
        List.length_eq_zero_iff] at htriggers
      obtain ⟨rfl, rfl, rfl, rfl⟩ := hempty
      obtain ⟨⟨_, _, fields, samples⟩, rfl, rfl, rfl, rfl, rfl⟩ := htriggers
      exact ⟨message, rfl⟩

/-- All files of the app can be rendered and written. -/
theorem leadApp_ready : Ready leadApp {} (.ofText "out") ⟨leadTree, Template.Library.standard, []⟩ where
  canWrite := by decide +kernel
  bytes := by
    intro task htask
    -- What the bundled templates make of any app is known, so no template has to be read for this one.
    have htext : ∃ text, (task.artifact.render leadApp {} leadTree Template.Library.standard).1 = .ok text ∧
        Console.Encodable text := by
      rcases mem_plan.1 htask with ⟨c, key, s, hstep, rfl⟩ | rfl | rfl
      · have hone : leadApp.stepList = [(Category.trigger, ("lead" : Text), (⟨"lead", [], []⟩ : Step))] := rfl
        rw [hone] at hstep
        cases List.mem_singleton.1 hstep
        have hrender := Artifact.render_eq_stepText Template.Library.honest_standard leadTree leadApp {} .trigger
          "lead" ⟨"lead", [], []⟩
        refine ⟨_, hrender.trans rfl, ?_⟩
        decide +kernel
      · exact ⟨_, index_render leadApp {} leadTree, by decide +kernel⟩
      · exact ⟨_, manifest_render leadApp {} leadTree rfl, by decide +kernel⟩
    obtain ⟨text, hrender, hencodable⟩ := htext
    obtain ⟨bytes, hbytes⟩ := Utf8.exists_encode hencodable
    exact ⟨bytes, Artifact.bytes_eq_ok_iff.2 ⟨text, hrender, hbytes⟩⟩

/-- Where there is no definition, nothing is made, not even the output directory. A definition with one trigger is
converted to three files. -/
theorem convert_commits_onOneWorker :
    parse onOneWorker = some (.convert (.ofText "app.json") (.ofText "out") none (some 1) false) ∧
      (((run onOneWorker).run ⟨Tree.empty, Console.Screen.blank, none⟩).1.exit ≠ 0 ∧
        ((run onOneWorker).run ⟨Tree.empty, Console.Screen.blank, none⟩).2.tree = Tree.empty) ∧
      let r := (run onOneWorker).run ⟨leadTree, Console.Screen.blank, none⟩
      r.1.exit = 0 ∧ ∀ name ∈ [("triggers/lead.js" : Text), "index.js", "package.json"],
        ∃ bytes, r.2.tree.at? (Path.ofText "out" / name).place = some (.file bytes) := by
  have hparse : parse onOneWorker = some (.convert (.ofText "app.json") (.ofText "out") none (some 1) false) := rfl
  refine ⟨hparse, ?_, ?_⟩
  · have hmissing : (Definition.loadApp Tree.empty (.ofText "app.json")).isOk = false := by decide +kernel
    refine (convert_commits hparse _).1 (Or.inr (Or.inl ?_))
    show ∃ f, Definition.loadApp Tree.empty (.ofText "app.json") = .error f
    cases hload : Definition.loadApp Tree.empty (.ofText "app.json") with
    | error f => exact ⟨f, rfl⟩
    | ok found =>
        rw [hload] at hmissing
        cases hmissing
  · obtain ⟨message, hsettings⟩ := load_leadTree
    obtain ⟨noteOfApp, happ⟩ := loadApp_leadTree
    have htitle : (Definition.loadApp leadTree (.ofText "app.json")).toOption.map (·.1.title) = some [] := by
      rw [happ]
      rfl
    have htold : ∀ text ∈ conversion.told leadTree, Console.Plain text := by
      show ∀ text ∈ Path.text (.ofText "app.json") :: Path.text (.ofText "out") :: [] ++
        ((Definition.loadApp leadTree (.ofText "app.json")).toOption.map (·.1.title)).toList, Console.Plain text
      rw [htitle]
      decide +kernel
    have hzero : ((run onOneWorker).run ⟨leadTree, Console.Screen.blank, none⟩).1.exit = 0 :=
      exit_of_ready hparse (by decide) hsettings happ (by decide) leadApp_ready htold Console.of_nil
    refine ⟨hzero, ?_⟩
    obtain ⟨settings, app, ⟨_, hread⟩, ⟨_, hmade⟩, hfiles⟩ := (convert_commits hparse _).2 hzero
    -- What was loaded is what is known of the tree.
    cases hsettings.symm.trans hread
    cases happ.symm.trans hmade
    have hplanned : (plan leadApp).map Task.fileName = [("triggers/lead.js" : Text), "index.js", "package.json"] := by
      decide +kernel
    intro name hname
    rw [← hplanned] at hname
    obtain ⟨task, htask, rfl⟩ := List.mem_map.1 hname
    obtain ⟨_, bytes, _, _, hfile⟩ := (hfiles rfl).1 task htask
    exact ⟨bytes, hfile⟩

end StepForge.Command
