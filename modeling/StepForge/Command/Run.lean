import StepForge.Command.Arguments
import StepForge.Console.Progress
import StepForge.Console.Screen
import StepForge.Conversion.Run
import StepForge.Definition.Source
import StepForge.Settings.File

/-!
# `StepForge.Command.Run` — what a command does

A command changes a tree and prints. Its faults are reported and give the exit code one; a fault that
arises while a fault is reported escapes.

## Contents
- `Shell`, `Act` — what a command works on, and its steps.
- `say`, `box`, `rowsOf`, `note`, `operation` — reports.
- `convert`, `initConfig`, `templates` — the commands.
- `Ending`, `handled`, `perform`, `run` — how a command ends.
-/

namespace StepForge.Command

open Console

/-- What a command works on. -/
structure Shell where
  tree : Tree
  screen : Screen
  log : Option LogState

/-- A step of a command: a change that stays when the step ends in a fault. -/
abbrev Act (α : Type) : Type := ExceptT Fault (StateM Shell) α

/-! ## Reports -/

/-- Prints a text, unless it is a fault. -/
def emit : Except MarkupFault Text → Act Unit
  | .error f => throw (.markup f)
  | .ok t => do
      let s ← get
      let (screen, r) := s.screen.print t
      set { s with screen := screen }
      match r with
      | .ok () => pure ()
      | .error f => throw (.encoding f)

/-- Prints a text with tags. -/
def say (markup : Text) : Act Unit := emit (printed markup)

/-- Prints a box with a title and rows. -/
def box (title : Text) (items : List (Text × Text)) : Act Unit := emit (summary title items)

/-- The rows of a box that values give, under distinct labels. -/
def rowsOf (items : List (Value × Value)) : Except Fault (List (Text × Text)) :=
  match items.find? fun e => !e.1.isKey with
  | some (k, _) => .error (.lookup (.notAKey k))
  | none => (Value.ofEntries items).mapM fun (k, v) =>
      (k.label.mapError .value).map fun label => (label, v.display)

/-- Prints a log record, if the log was set up. -/
def note (level : Level) (message : Text) : Act Unit :=
  modify fun s => match s.log with
    | none => s
    | some l =>
        let (screen, l) := s.screen.log l ⟨level, message⟩
        { s with screen := screen, log := some l }

/-- An operation with reports of its beginning and its end. -/
def operation {α : Type} (name : Text) (body : Act α) : Act α := do
  say (startedMarkup name)
  tryCatch
    (do
      let x ← body
      say (completedMarkup name)
      pure x)
    (fun f => do
      say (failedMarkup name f.text)
      throw f)

/-- Prints what is reported while a conversion runs. -/
def reportAll : List Conversion.Event → Act Unit
  | [] => pure ()
  | .log r :: rest => do
      note r.level r.message
      reportAll rest
  | .written name :: rest => do
      say (writtenMarkup name)
      reportAll rest

/-! ## Commands -/

/-- The value of a computation on the tree, with its note logged. -/
def loaded {α : Type} (load : Tree → Except Fault (α × Text)) : Act α := do
  let s ← get
  match load s.tree with
  | .error f => throw f
  | .ok (x, message) => do
      note .debug message
      pure x

/-- Writes the files of a converted app. -/
def convertFiles (app : App) (settings : Settings) (out : Path) (workers : Option Int) : Act (List Path) := do
  let s ← get
  let (r, w) := Conversion.convert app settings out ((workers.map Value.int).getD .null)
    ⟨s.tree, Template.Library.standard, []⟩
  set { s with tree := w.tree }
  reportAll w.reports
  match r with
  | .ok paths => pure paths
  | .error f => throw f

/-- The rows of the summary of a conversion. -/
def summaryRows (app : App) (out : Path) (written : List Path) : List (Text × Text) :=
  [("Triggers", Text.ofNat app.triggers.length),
   ("Searches", Text.ofNat app.searches.length),
   ("Writes", Text.ofNat app.actions.length),
   ("Files written", Text.ofNat written.length),
   ("Output", out.text)]

/-- Converts the app of a definition. -/
def convert (definition out : Path) (config : Option Path) (workers : Option Int) (verbose : Bool) :
    Act Unit := do
  modify fun s => { s with log := some ⟨verbose, false⟩ }
  let settings ← loaded fun t => Settings.load t config
  let app ← loaded fun t => Definition.loadApp t definition
  let title := if app.title.isEmpty then definition.name else app.title
  let written ← operation (("Converting " : Text) ++ title) (convertFiles app settings out workers)
  box "Conversion Summary" (summaryRows app out written)
  say "\n[dim]Next steps:[/dim]"
  say (("  cd " : Text) ++ out.text)
  say "  npm install"

/-- Writes the default settings. -/
def initConfig (dir : Path) : Act Unit := do
  let s ← get
  let (tree, r) := Settings.writeDefault s.tree dir
  set { s with tree := tree }
  match r with
  | .error f => throw f
  | .ok p => say (("[green]✓ Wrote configuration to " : Text) ++ p.text ++ "[/green]")

/-- Prints texts with tags one after another. -/
def sayAll : List Text → Act Unit
  | [] => pure ()
  | t :: ts => do
      say t
      sayAll ts

/-- Lists the bundled templates. -/
def templates : Act Unit := do
  let s ← get
  match Template.Library.standard.names s.tree with
  | .error f => throw (.file f)
  | .ok names => do
      say (("[bold]Templates in " : Text) ++ Template.Home.bundled.text ++ ":[/bold]")
      sayAll (names.map fun n => ("  " : Text) ++ n)

/-! ## Endings -/

/-- How a command ends: its exit code, and a fault that nothing caught. -/
structure Ending where
  exit : Nat
  escaped : Option Fault

/-- Reports a fault: one of the library with what to do about it, any other as unexpected. -/
def reportFault (f : Fault) : Act Unit :=
  if f.isOwn then say f.markupText
  else do
    note .error "Unexpected error"
    say (("[red]Unexpected error:[/red] " : Text) ++ f.text)
    say "\n[yellow]This may be a bug. Please report it.[/yellow]"

/-- A command whose faults are reported. -/
def handled (act : Act Unit) : StateM Shell Ending := do
  match ← act.run with
  | .ok () => pure ⟨0, none⟩
  | .error f => match ← (reportFault f).run with
    | .ok () => pure ⟨1, none⟩
    | .error g => pure ⟨1, some g⟩

/-- A command whose faults escape. -/
def bare (act : Act Unit) : StateM Shell Ending := do
  match ← act.run with
  | .ok () => pure ⟨0, none⟩
  | .error f => pure ⟨1, some f⟩

/-- Does what is asked for. -/
def perform : Request → StateM Shell Ending
  | .convert definition out config workers verbose =>
      handled (convert definition out config workers verbose)
  | .initConfig dir => handled (initConfig dir)
  | .templates => bare templates
  | .help => pure ⟨0, none⟩

/-- Runs the command of a command line. Words that are not understood give the exit code two, and a null
character in a path is a fault before the command begins. -/
def run (words : List Text) : StateM Shell Ending :=
  match parse words with
  | none => pure ⟨2, none⟩
  | some c =>
      if c.paths.any (·.names.any (·.contains 0)) then pure ⟨1, some (.file .nullCharacter)⟩
      else perform c

end StepForge.Command
