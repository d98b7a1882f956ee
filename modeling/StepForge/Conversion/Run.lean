import StepForge.Conversion.Plan
import StepForge.Console.Log

/-!
# `StepForge.Conversion.Run` — the files of a converted app written into a tree

A task renders its text, makes the directories that lead to its file, and writes the file. The finished
tasks are collected one by one; the first failure ends the conversion, and what was written stays. Here the tasks run
one after another, and none is begun behind a failure. That is one of the runs of a pool of workers, in which tasks
can still be begun until the failure is noticed.

## Contents
- `Event` — what is reported while a conversion runs.
- `writeValue`, `writeFile` — texts into files.
- `Workshop`, `runTask`, `runTasks` — tasks one after another.
- `collect` — the paths of the finished tasks, or the failure.
- `workers`, `workersFault`, `convert` — a whole conversion.
-/

namespace StepForge.Conversion

/-- What is reported while a conversion runs. -/
inductive Event where
  | log (r : Console.Record)
  | written (fileName : Text)

/-- What a conversion works on: the tree, the templates, and the reports so far, the latest in front. -/
structure Workshop where
  tree : Tree
  library : Template.Library
  events : List Event

namespace Workshop

/-- One more report. -/
def report (w : Workshop) (e : Event) : Workshop := { w with events := e :: w.events }

/-- One more log record. -/
def note (w : Workshop) (level : Console.Level) (message : Text) : Workshop :=
  w.report (.log ⟨level, message⟩)

/-- All reports, the first one in front. -/
def reports (w : Workshop) : List Event := w.events.reverse

end Workshop

/-- The fault of a text file. -/
def textFault : TextFault → Fault
  | .file f => .file f
  | .encoding f => .encoding f
  | .decoding f => .decoding f

/-- A value written to a file as its text. The directories that lead to the file are made before a value
that is no text is refused. -/
def writeValue (t : Tree) (p : Path) : Value → Tree × Except Fault Unit
  | .str text =>
      let change := t.writeText p text
      (change.tree, change.result.mapError textFault)
  | v =>
      let made := t.makeDirs p.parent
      (made.tree, match made.result with
        | .error f => .error (textFault (p.parent.textFault f))
        | .ok () => .error (.value (.notData v.kind)))

/-- A text written to a file below the output directory, and reported. -/
def writeFile (out : Path) (fileName text : Text) (w : Workshop) : Except Fault Path × Workshop :=
  let p := out / fileName
  let change := w.tree.writeText p text
  let w := { w with tree := change.tree }
  match change.result with
  | .error f => (.error (textFault f), w)
  | .ok () =>
      let w := w.note .debug
        (("Wrote " : Text) ++ p.text ++ " (" ++ Text.ofNat text.length ++ " chars)")
      (.ok p, w.report (.written fileName))

/-- A task: its file rendered and then written. -/
def runTask (app : App) (settings : Settings) (out : Path) (task : Task) (w : Workshop) :
    Except Fault Path × Workshop :=
  let (r, library) := task.artifact.render app settings w.tree w.library
  let w := { w with library := library }
  match r with
  | .error f => (.error f, w)
  | .ok text => writeFile out task.fileName text w

/-- How a finished task ended, by the name of its file. -/
abbrev Outcome := Text × Except Fault Path

/-- Tasks one after another up to the first failure, with how each of them ended. -/
def runTasks (app : App) (settings : Settings) (out : Path) : List Task → Workshop →
    List Outcome × Workshop
  | [], w => ([], w)
  | task :: tasks, w =>
      let (r, w) := runTask app settings out task w
      match r with
      | .error f => ([(task.fileName, .error f)], w)
      | .ok p =>
          let (outcomes, w) := runTasks app settings out tasks w
          ((task.fileName, .ok p) :: outcomes, w)

/-- The paths by file name of the tasks that ended well, in the order in which they are handed back, or
the first failure with the names collected before it, ascending. -/
def collect : (done : List (Text × Path)) → List Outcome → Except Fault (List (Text × Path))
  | done, [] => .ok done
  | done, (name, .ok p) :: rest => collect (putKey name p done) rest
  | done, (name, .error f) :: _ => .error (.conversion (.str name) f (Text.sort (done.map (·.1))))

/-- The number of workers: the one given, or else that of the settings. -/
def workers (settings : Settings) (given : Value) : Value :=
  if given.isTruthy then given else settings.workers

/-- What is wrong with a number of workers; null is no limit. -/
def workersFault : Value → Option Fault
  | .null => none
  | v => match Quantity.ofValue? v with
    | some q => if q.isPositive then none else some .noWorkers
    | none => some (.value (.unordered "<=" v.kind "int"))

/-- A conversion of an app into a directory, one task after another: the paths of its files in planning order, and
the workshop behind it. -/
def convert (app : App) (settings : Settings) (out : Path) (given : Value) (w : Workshop) :
    Except Fault (List Path) × Workshop :=
  let tasks := plan app
  let w := w.note .info (("Converting '" : Text) ++ app.title ++ "': " ++ Text.ofNat tasks.length
    ++ " files into " ++ out.text)
  match workersFault (workers settings given) with
  | some f => (.error f, w)
  | none =>
    -- Of several files of one name the paths agree, so each task finds its own.
    let (outcomes, w) := runTasks app settings out tasks w
    match collect [] outcomes with
    | .error f =>
        match f with
        | .conversion name cause _ =>
            (.error f, w.note .error
              (("Failed to generate " : Text) ++ name.display ++ ": " ++ cause.text))
        | f => (.error f, w)
    | .ok done => (.ok (tasks.filterMap fun task => done.lookup task.fileName), w)

end StepForge.Conversion
