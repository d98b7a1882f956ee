import StepForge.Console.Summary

/-!
# `StepForge.Console.Progress` — reports on the work that is done

The names that a report tells are part of a text with tags, so tags in them are tags.

## Contents
- `startedMarkup`, `completedMarkup`, `failedMarkup` — the beginning and the two ends of an operation.
- `writtenMarkup` — a file that was written.
-/

namespace StepForge.Console

/-- An operation begins. -/
def startedMarkup (operation : Text) : Text := ("[bold blue]" : Text) ++ operation ++ "...[/bold blue]"

/-- An operation is complete. -/
def completedMarkup (operation : Text) : Text := ("[green]✓ " : Text) ++ operation ++ " complete[/green]"

/-- An operation failed, with the text of the fault. -/
def failedMarkup (operation fault : Text) : Text :=
  ("[red]✗ " : Text) ++ operation ++ " failed: " ++ fault ++ "[/red]"

/-- A file was written. -/
def writtenMarkup (file : Text) : Text := ("  Writing " : Text) ++ file ++ " [green]✓[/green]"

end StepForge.Console
