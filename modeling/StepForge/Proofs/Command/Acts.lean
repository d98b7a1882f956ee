import StepForge.Command.Run

/-!
# `StepForge.Proofs.Command.Acts` — acts one after another

An act ends well or in a fault, and leaves a shell behind in both cases. Reports change the screen only, so
whatever a command prints, and however printing fails, its tree is what its work has made of it.

## Contents
- `on`, `on_bind`, `on_tryCatch` — how an act ends, and the shell behind it.
- `KeepsTree` — acts that leave the tree alone: all reports are.
- `begun`, `filesWritten`, `summarized`, `convert_eq_bind` — a conversion up to the moment at which its app is known,
  and from there on.
- `on_handled` — how a command ends.
-/

namespace StepForge.Command

open Console

/-! ## Acts -/

/-- How an act ends on a shell, and the shell behind it. -/
def on {α : Type} (x : Act α) (s : Shell) : Except Fault α × Shell := x.run.run s

section Acts

variable {α β : Type}

theorem on_bind (x : Act α) (f : α → Act β) (s : Shell) :
    on (x >>= f) s = match on x s with
      | (.ok a, t) => on (f a) t
      | (.error e, t) => (.error e, t) := by
  unfold on
  rw [ExceptT.run_bind, StateT.run_bind]
  generalize (x.run.run s : Except Fault α × Shell) = p
  obtain ⟨r, t⟩ := p
  cases r with
  | ok a => rfl
  | error e => rfl

theorem on_tryCatch (x : Act α) (catcher : Fault → Act α) (s : Shell) :
    on (tryCatch x catcher) s = match on x s with
      | (.ok a, t) => (.ok a, t)
      | (.error e, t) => on (catcher e) t := by
  rcases hx : on x s with ⟨r, t⟩
  have hrun : StateT.run (m := Id) x s = (r, t) := hx
  show (StateT.run (ExceptT.run (ExceptT.tryCatch x catcher)) s : Except Fault α × Shell) = _
  unfold ExceptT.tryCatch
  rw [ExceptT.run_mk, StateT.run_bind, hrun]
  cases r with
  | ok a => rfl
  | error e => rfl

theorem on_modify (change : Shell → Shell) (s : Shell) : on (modify change : Act Unit) s = (.ok (), change s) := rfl

theorem on_get (s : Shell) : on (get : Act Shell) s = (.ok s, s) := rfl

theorem on_set (t s : Shell) : on (set t : Act Unit) s = (.ok (), t) := rfl

/-- An act that ends well did so step by step. -/
theorem on_bind_ok {x : Act α} {f : α → Act β} {s t : Shell} {b : β} (h : on (x >>= f) s = (.ok b, t)) :
    ∃ a u, on x s = (.ok a, u) ∧ on (f a) u = (.ok b, t) := by
  rw [on_bind] at h
  rcases hx : on x s with ⟨r, u⟩
  rw [hx] at h
  cases r with
  | ok a => exact ⟨a, u, rfl, h⟩
  | error e => cases h

/-- An act in front of others that ends well. -/
theorem on_bind_of_ok {x : Act α} {f : α → Act β} {s u : Shell} {a : α} (h : on x s = (.ok a, u)) :
    on (x >>= f) s = on (f a) u := by
  rw [on_bind, h]

/-- An act in front of others that fails. -/
theorem on_bind_of_error {x : Act α} {f : α → Act β} {s u : Shell} {e : Fault} (h : on x s = (.error e, u)) :
    on (x >>= f) s = (.error e, u) := by
  rw [on_bind, h]

/-! ## The tree behind acts -/

/-- An act leaves the tree as it is, however it ends. -/
def KeepsTree (x : Act α) : Prop := ∀ s, (on x s).2.tree = s.tree

theorem KeepsTree.tree_eq {x : Act α} (hx : KeepsTree x) {s t : Shell} {r : Except Fault α} (h : on x s = (r, t)) :
    t.tree = s.tree := by
  have hkeeps := hx s
  rw [h] at hkeeps
  exact hkeeps

theorem keepsTree_pure (a : α) : KeepsTree (pure a : Act α) := fun _ => rfl

theorem KeepsTree.bind {x : Act α} {f : α → Act β} (hx : KeepsTree x) (hf : ∀ a, KeepsTree (f a)) :
    KeepsTree (x >>= f) := by
  intro s
  have htree := hx s
  rw [on_bind]
  generalize on x s = p at htree
  obtain ⟨r, t⟩ := p
  cases r with
  | ok a => exact (hf a t).trans htree
  | error e => exact htree

end Acts

/-! ## Reports -/

/-- What comes of printing a text. -/
theorem on_emit (r : Except MarkupFault Text) (s : Shell) :
    on (emit r) s = match r with
      | .error f => (.error (.markup f), s)
      | .ok t => ((s.screen.print t).2.mapError .encoding, { s with screen := (s.screen.print t).1 }) := by
  cases r with
  | error f => rfl
  | ok t =>
      show _ = ((s.screen.print t).2.mapError Fault.encoding, { s with screen := (s.screen.print t).1 })
      rcases hprint : s.screen.print t with ⟨screen, result⟩
      unfold emit
      rw [on_bind_of_ok (on_get s), hprint]
      cases result with
      | ok u => rfl
      | error f => rfl

theorem keepsTree_emit (r : Except MarkupFault Text) : KeepsTree (emit r) := by
  intro s
  rw [on_emit]
  cases r with
  | error f => rfl
  | ok t => rfl

theorem keepsTree_say (markup : Text) : KeepsTree (say markup) := keepsTree_emit _

theorem keepsTree_box (title : Text) (items : List (Text × Text)) : KeepsTree (box title items) := keepsTree_emit _

/-- A log record never fails. -/
theorem on_note (level : Level) (message : Text) (s : Shell) :
    on (note level message) s = (.ok (), match s.log with
      | none => s
      | some l =>
          { s with
            screen := (s.screen.log l ⟨level, message⟩).1
            log := some (s.screen.log l ⟨level, message⟩).2 }) := rfl

theorem keepsTree_note (level : Level) (message : Text) : KeepsTree (note level message) := by
  intro s
  rw [on_note]
  cases s.log with
  | none => rfl
  | some l => rfl

theorem keepsTree_reportAll (events : List Conversion.Event) : KeepsTree (reportAll events) := by
  induction events with
  | nil => exact keepsTree_pure ()
  | cons e events ih =>
      cases e with
      | log r => exact (keepsTree_note r.level r.message).bind fun _ => ih
      | written name => exact (keepsTree_say _).bind fun _ => ih

/-- A fault is reported on the screen alone. -/
theorem keepsTree_reportFault (f : Fault) : KeepsTree (reportFault f) := by
  unfold reportFault
  split
  · exact keepsTree_say _
  · exact (keepsTree_note _ _).bind fun _ => (keepsTree_say _).bind fun _ => keepsTree_say _

/-- What is loaded is read out of the tree. -/
theorem on_loaded {α : Type} (load : Tree → Except Fault (α × Text)) (s : Shell) :
    on (loaded load) s = match load s.tree with
      | .error f => (.error f, s)
      | .ok (x, message) => (.ok x, (on (note .debug message) s).2) := by
  unfold loaded
  rw [on_bind_of_ok (on_get s)]
  cases load s.tree with
  | error f => rfl
  | ok found => rfl

theorem keepsTree_loaded {α : Type} (load : Tree → Except Fault (α × Text)) : KeepsTree (loaded load) := by
  intro s
  rw [on_loaded]
  cases load s.tree with
  | error f => rfl
  | ok found => exact keepsTree_note .debug found.2 s

/-! ## A conversion in two parts -/

/-- The number of workers as a conversion is told it. -/
def workersGiven (workers : Option Int) : Value := (workers.map Value.int).getD .null

/-- An act that does nothing and ends as it is told. -/
def ending {α : Type} : Except Fault α → Act α
  | .ok a => pure a
  | .error f => throw f

theorem on_ending {α : Type} (r : Except Fault α) (s : Shell) : on (ending r) s = (r, s) := by
  cases r with
  | ok a => rfl
  | error f => rfl

/-- The files of an app are written, then their reports are printed, and it ends as the writing did. -/
theorem on_convertFiles (app : App) (settings : Settings) (out : Path) (workers : Option Int) (s : Shell) :
    let r := Conversion.convert app settings out (workersGiven workers) ⟨s.tree, Template.Library.standard, []⟩
    on (convertFiles app settings out workers) s =
      on (reportAll r.2.reports >>= fun _ => ending r.1) { s with tree := r.2.tree } := by
  intro r
  have hr : Conversion.convert app settings out ((workers.map Value.int).getD .null)
      ⟨s.tree, Template.Library.standard, []⟩ = r := rfl
  unfold convertFiles
  rw [on_bind_of_ok (on_get s)]
  dsimp only
  rw [on_bind_of_ok (on_set _ s), hr]
  clear_value r
  obtain ⟨result, w⟩ := r
  cases result with
  | ok paths => rfl
  | error f => rfl

/-- The name under which a conversion is reported. -/
def conversionName (definition : Path) (app : App) : Text :=
  ("Converting " : Text) ++ (if app.title.isEmpty then definition.name else app.title)

/-- A conversion up to the moment at which its settings and its app are known and its beginning is reported. -/
def begun (definition : Path) (config : Option Path) (verbose : Bool) : Act (Settings × App) := do
  modify fun s => { s with log := some ⟨verbose, false⟩ }
  let settings ← loaded fun t => Settings.load t config
  let app ← loaded fun t => Definition.loadApp t definition
  say (startedMarkup (conversionName definition app))
  pure (settings, app)

/-- The files of an app, and the report of how their conversion ended. -/
def filesWritten (definition out : Path) (workers : Option Int) (settings : Settings) (app : App) : Act (List Path) :=
  tryCatch
    (do
      let written ← convertFiles app settings out workers
      say (completedMarkup (conversionName definition app))
      pure written)
    (fun f => do
      say (failedMarkup (conversionName definition app) f.text)
      throw f)

/-- The reports behind a conversion. -/
def summarized (out : Path) (app : App) (written : List Path) : Act Unit := do
  box "Conversion Summary" (summaryRows app out written)
  say "\n[dim]Next steps:[/dim]"
  say (("  cd " : Text) ++ out.text)
  say "  npm install"

/-- **A conversion in its parts.** -/
theorem convert_eq_bind (definition out : Path) (config : Option Path) (workers : Option Int) (verbose : Bool) :
    convert definition out config workers verbose =
      begun definition config verbose >>= fun read =>
        filesWritten definition out workers read.1 read.2 >>= summarized out read.2 := by
  unfold convert begun operation filesWritten summarized conversionName
  simp only [bind_assoc, pure_bind]

theorem keepsTree_begun (definition : Path) (config : Option Path) (verbose : Bool) :
    KeepsTree (begun definition config verbose) := by
  have hlog : KeepsTree (modify fun s => { s with log := some ⟨verbose, false⟩ } : Act Unit) := fun _ => rfl
  exact hlog.bind fun _ => (keepsTree_loaded _).bind fun _ => (keepsTree_loaded _).bind fun _ =>
    (keepsTree_say _).bind fun _ => keepsTree_pure _

theorem keepsTree_summarized (out : Path) (app : App) (written : List Path) :
    KeepsTree (summarized out app written) :=
  (keepsTree_box _ _).bind fun _ => (keepsTree_say _).bind fun _ => (keepsTree_say _).bind fun _ => keepsTree_say _

/-! ## Endings -/

/-- A path with a null character ends a command before it begins. -/
theorem run_of_null {words : List Text} {c : Request} (hparse : parse words = some c)
    (hnull : (c.paths.any fun p => p.names.any (·.contains 0)) = true) :
    run words = pure ⟨1, some (.file .nullCharacter)⟩ := by
  unfold run
  rw [hparse]
  exact if_pos hnull

theorem run_of_parse {words : List Text} {c : Request} (hparse : parse words = some c)
    (hnull : (c.paths.any fun p => p.names.any (·.contains 0)) = false) : run words = perform c := by
  unfold run
  rw [hparse]
  dsimp only
  rw [hnull]
  rfl

/-- **How a command ends**: well, or with its fault reported, or with the fault of that report. -/
theorem on_handled (act : Act Unit) (s : Shell) :
    (handled act).run s = match on act s with
      | (.ok (), t) => (⟨0, none⟩, t)
      | (.error f, t) => match on (reportFault f) t with
        | (.ok (), u) => (⟨1, none⟩, u)
        | (.error g, u) => (⟨1, some g⟩, u) := by
  unfold handled on
  rw [StateT.run_bind]
  generalize (act.run.run s : Except Fault Unit × Shell) = p
  obtain ⟨r, t⟩ := p
  cases r with
  | ok u => rfl
  | error f =>
      show (StateT.run _ t : Id (Ending × Shell)) = _
      dsimp only
      rw [StateT.run_bind]
      generalize ((reportFault f).run.run t : Except Fault Unit × Shell) = p
      obtain ⟨r, u⟩ := p
      cases r with
      | ok v => rfl
      | error g => rfl

end StepForge.Command
