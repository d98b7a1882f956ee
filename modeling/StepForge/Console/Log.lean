import StepForge.Console.Print

/-!
# `StepForge.Console.Log` — log records on the console

A record has three columns: the time, the level and the message. The time is shown with the first record
and left out while it stays the same. Tags in a message are not looked at.

## Contents
- `Level`, `Level.ofName?` — how important a record is.
- `Record`, `recordText` — a record, and how it stands on the console.
- `logged` — the records that are shown.
-/

namespace StepForge.Console

/-- How important a record is. -/
inductive Level where
  | debug
  | info
  | warning
  | error
  | critical
  deriving DecidableEq

namespace Level

/-- The number of a level. -/
def number : Level → Nat
  | debug => 10
  | info => 20
  | warning => 30
  | error => 40
  | critical => 50

/-- The name of a level. -/
def name : Level → Text
  | debug => "DEBUG"
  | info => "INFO"
  | warning => "WARNING"
  | error => "ERROR"
  | critical => "CRITICAL"

/-- The names of levels, of which two have a second one. -/
def names : List (Text × Level) :=
  [("debug", debug), ("info", info), ("warning", warning), ("warn", warning), ("error", error),
   ("critical", critical), ("fatal", critical)]

/-- The level of a name in any letter case. -/
def ofName? (n : Text) : Option Level := names.lookup (Text.lower n)

/-- The least level that is shown. -/
def least (verbose : Bool) : Level := if verbose then debug else warning

end Level

/-- A log record. -/
structure Record where
  level : Level
  message : Text
  deriving DecidableEq

/-- The time of all records. -/
def clockText : Text := "[00:00:00]"

/-- The width of the column of levels. -/
def levelWidth : Nat := 8

/-- The width of the column of messages, which is what the others leave. -/
def messageWidth : Nat := columns - clockText.length - 1 - levelWidth - 1

/-- The lines of a record; the time is shown if it is the first one. -/
def recordText (first : Bool) (r : Record) : Text :=
  let time := if first then clockText else List.replicate clockText.length 32
  let front := time ++ 32 :: Text.padRight levelWidth 32 r.level.name ++ [32]
  let blank := List.replicate front.length 32
  match wrap messageWidth .fold (visible r.message) with
  | [] => []
  | line :: lines =>
      linesText ((front ++ fit messageWidth line) :: lines.map fun l => blank ++ fit messageWidth l)

/-- Whether a record is shown. -/
def isShown (verbose : Bool) (r : Record) : Bool := (Level.least verbose).number ≤ r.level.number

/-- The records that are shown, as they stand on the console. -/
def logged (verbose : Bool) (records : List Record) : Text :=
  match records.filter (isShown verbose) with
  | [] => []
  | r :: rs => recordText true r ++ rs.flatMap (recordText false)

end StepForge.Console
