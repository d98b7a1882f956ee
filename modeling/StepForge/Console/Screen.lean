import StepForge.Console.Log
import StepForge.Text.Utf8

/-!
# `StepForge.Console.Screen` — what has come out on the console

What is printed goes out at once. A text that has no bytes cannot go out; it stays behind and holds up
everything that is printed after it.

## Contents
- `Screen`, `Screen.print` — the text that went out and the text that stayed behind.
- `LogState`, `Screen.log` — log records among it.
-/

namespace StepForge.Console

/-- What has come out, and what could not. -/
structure Screen where
  out : Text
  behind : Text
  deriving DecidableEq

namespace Screen

/-- Nothing printed yet. -/
def blank : Screen := ⟨[], []⟩

/-- The screen after a text is printed, and whether it could go out. -/
def print (s : Screen) (t : Text) : Screen × Except Utf8.EncodeFault Unit :=
  let waiting := s.behind ++ t
  match Utf8.encode waiting with
  | .ok _ => (⟨s.out ++ waiting, []⟩, .ok ())
  | .error f => (⟨s.out, waiting⟩, .error f)

end Screen

/-- A log that was set up: whether it shows all records, and whether it has shown one. -/
structure LogState where
  verbose : Bool
  started : Bool
  deriving DecidableEq

/-- The screen and the log after a record; one that cannot go out is no fault. -/
def Screen.log (s : Screen) (l : LogState) (r : Record) : Screen × LogState :=
  if isShown l.verbose r then ((s.print (recordText (!l.started) r)).1, { l with started := true })
  else (s, l)

end StepForge.Console
