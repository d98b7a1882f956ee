import StepForge.Proofs.Command.Acts

/-!
# `StepForge.Proofs.Command.Converted` — the parts of a conversion

A conversion reads its settings and its app, reports that it begins, writes the files and reports what it wrote.
Up to the writing of files it only reads and reports, so a failure leaves the tree as it was. A conversion that
ended well did so in all its parts.

## Contents
- `on_begun`, `begun_of_settings`, `begun_of_app` — what fails before the files are written.
- `on_begun_ok`, `on_filesWritten_ok`, `on_convert_ok` — what ended well.
- `exit_of_error` — the exit code of an act that fails, and its tree.
-/

namespace StepForge.Command

section Parts

variable {definition out : Path} {config : Option Path} {workers : Option Int} {verbose : Bool}
  {settings : Settings} {app : App} {s t : Shell}

/-! ## Up to the writing of files -/

/-- What comes of the first part of a conversion: the settings, then the app, then a report. -/
theorem on_begun (definition : Path) (config : Option Path) (verbose : Bool) (s : Shell) :
    on (begun definition config verbose) s =
      let s₁ : Shell := { s with log := some ⟨verbose, false⟩ }
      match Settings.load s.tree config with
      | .error f => (.error f, s₁)
      | .ok (settings, message) =>
          let s₂ := (on (note .debug message) s₁).2
          match Definition.loadApp s.tree definition with
          | .error f => (.error f, s₂)
          | .ok (app, message) =>
              let s₃ := (on (note .debug message) s₂).2
              match on (say (Console.startedMarkup (conversionName definition app))) s₃ with
              | (.ok (), t) => (.ok (settings, app), t)
              | (.error f, t) => (.error f, t) := by
  unfold begun
  rw [on_bind_of_ok (on_modify _ s), on_bind, on_loaded]
  dsimp only
  cases Settings.load s.tree config with
  | error f => rfl
  | ok read =>
      dsimp only
      rw [on_bind, on_loaded, keepsTree_note]
      dsimp only
      cases Definition.loadApp s.tree definition with
      | error f => rfl
      | ok made =>
          dsimp only
          rw [on_bind]
          generalize on (say (Console.startedMarkup (conversionName definition made.1))) _ = p
          obtain ⟨r, t⟩ := p
          cases r with
          | ok u => rfl
          | error f => rfl

theorem begun_of_settings {f : Fault} (h : Settings.load s.tree config = .error f) (definition : Path)
    (verbose : Bool) : ∃ t, on (begun definition config verbose) s = (.error f, t) := by
  rw [on_begun, h]
  exact ⟨_, rfl⟩

theorem begun_of_app {f : Fault} (h : Definition.loadApp s.tree definition = .error f) (config : Option Path)
    (verbose : Bool) : ∃ f t, on (begun definition config verbose) s = (.error f, t) := by
  rw [on_begun, h]
  cases Settings.load s.tree config with
  | error g => exact ⟨_, _, rfl⟩
  | ok read => exact ⟨_, _, rfl⟩

/-- Where a conversion has begun, its settings and its app were loaded. -/
theorem on_begun_ok (h : on (begun definition config verbose) s = (.ok (settings, app), t)) :
    t.tree = s.tree ∧ (∃ message, Settings.load s.tree config = .ok (settings, message)) ∧
      ∃ message, Definition.loadApp s.tree definition = .ok (app, message) := by
  refine ⟨(keepsTree_begun definition config verbose).tree_eq h, ?_⟩
  rw [on_begun] at h
  cases hsettings : Settings.load s.tree config with
  | error f =>
      rw [hsettings] at h
      cases h
  | ok read =>
      cases happ : Definition.loadApp s.tree definition with
      | error f =>
          rw [hsettings, happ] at h
          cases h
      | ok made =>
          rw [hsettings, happ] at h
          dsimp only at h
          split at h
          · cases h
            exact ⟨⟨read.2, rfl⟩, made.2, rfl⟩
          · cases h

/-! ## The writing of files -/

/-- Where the files of an app were written and reported, their conversion ended well, and the tree is what it
left behind. -/
theorem on_filesWritten_ok {written : List Path}
    (h : on (filesWritten definition out workers settings app) s = (.ok written, t)) :
    let r := Conversion.convert app settings out (workersGiven workers) ⟨s.tree, Template.Library.standard, []⟩
    r.1 = .ok written ∧ t.tree = r.2.tree := by
  intro r
  unfold filesWritten at h
  rw [on_tryCatch] at h
  rcases hbody : on (do
      let written ← convertFiles app settings out workers
      say (Console.completedMarkup (conversionName definition app))
      pure written) s with ⟨result, u⟩
  rw [hbody] at h
  cases result with
  | error f =>
      obtain ⟨_, _, _, hthrow⟩ := on_bind_ok h
      cases hthrow
  | ok paths =>
      cases h
      obtain ⟨paths, v, hfiles, hrest⟩ := on_bind_ok hbody
      obtain ⟨_, x, hsay, hpure⟩ := on_bind_ok hrest
      cases hpure
      have hsayTree : t.tree = v.tree := (keepsTree_say _).tree_eq hsay
      rw [on_convertFiles] at hfiles
      obtain ⟨_, y, hreports, hend⟩ := on_bind_ok hfiles
      have hreportsTree : y.tree = r.2.tree := (keepsTree_reportAll _).tree_eq hreports
      rw [on_ending] at hend
      obtain ⟨hresult, rfl⟩ := Prod.mk.inj hend
      exact ⟨hresult, hsayTree.trans hreportsTree⟩

/-- **A conversion that ended well** did so in all its parts. -/
theorem on_convert_ok (h : on (convert definition out config workers verbose) s = (.ok (), t)) :
    ∃ settings app written, (∃ message, Settings.load s.tree config = .ok (settings, message)) ∧
      (∃ message, Definition.loadApp s.tree definition = .ok (app, message)) ∧
      let r := Conversion.convert app settings out (workersGiven workers) ⟨s.tree, Template.Library.standard, []⟩
      r.1 = .ok written ∧ t.tree = r.2.tree := by
  rw [convert_eq_bind] at h
  obtain ⟨⟨settings, app⟩, u, hbegun, hrest⟩ := on_bind_ok h
  obtain ⟨written, v, hfiles, hsummary⟩ := on_bind_ok hrest
  obtain ⟨htree, hsettings, happ⟩ := on_begun_ok hbegun
  obtain ⟨hconvert, hwritten⟩ := on_filesWritten_ok hfiles
  rw [htree] at hconvert hwritten
  have hlast : t.tree = v.tree := (keepsTree_summarized out app written).tree_eq hsummary
  exact ⟨settings, app, written, hsettings, happ, hconvert, hlast.trans hwritten⟩

/-! ## The exit code of a failure -/

/-- An act that fails gives another exit code, and its fault is reported on the screen alone. -/
theorem exit_of_error {act : Act Unit} {s t : Shell} {f : Fault} (h : on act s = (.error f, t)) :
    ((handled act).run s).1.exit ≠ 0 ∧ ((handled act).run s).2.tree = t.tree := by
  have hkeeps := keepsTree_reportFault f t
  rw [on_handled, h]
  dsimp only
  generalize on (reportFault f) t = p at hkeeps
  obtain ⟨r, u⟩ := p
  cases r with
  | ok v => exact ⟨by simp, hkeeps⟩
  | error g => exact ⟨by simp, hkeeps⟩

end Parts

end StepForge.Command
