import StepForge.Console.Markup
import StepForge.Console.Wrap

/-!
# `StepForge.Console.Print` — texts as they stand on the console

## Contents
- `columns` — the width of the console.
- `linesText` — lines, each ended by a line feed.
- `printed` — a text with tags as it stands on the console.
-/

namespace StepForge.Console

/-- The width of the console. -/
def columns : Nat := 100

/-- Lines, each ended by a line feed. -/
def linesText (lines : List Text) : Text := lines.flatMap (· ++ [10])

/-- A text with tags as it stands on the console. -/
def printed (markup : Text) : Except MarkupFault Text :=
  (shown markup).map fun t => linesText (wrap columns .fold t)

end StepForge.Console
