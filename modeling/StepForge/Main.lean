import StepForge.Command.Run

/-!
# `StepForge.Main` — the command line

What a command may look at is read into a tree, whose top is the working directory. The command runs on the
tree; what it prints is printed, and what it changed is written back.

## Contents
- `readAt`, `readFor` — the tree that a command works on.
- `writeBack` — the changes that it made.
- `main` — all of a run.
-/

namespace StepForge

/-- How far below its paths a command looks: at the directories of the categories and at their files. -/
def reach : Nat := 2

/-- A tree with what stands at a location, and up to `depth` levels below it. -/
def readAt : (depth : Nat) → Tree → Location → IO Tree
  | depth, t, l => do
      let place := (← IO.currentDir) / Text.toString (pathOf l).text
      if ← place.isDir then
        let t := (t.makeDir (pathOf l)).toOption.getD t
        match depth with
        | 0 => pure t
        | depth + 1 =>
            (← place.readDir).foldlM (fun t entry => readAt depth t (l ++ [Text.ofString entry.fileName])) t
      else if ← place.pathExists then
        let bytes ← IO.FS.readBinFile place
        pure ((t.writeBytes (pathOf l) bytes.toList).toOption.getD t)
      else pure t

/-- The locations that a path passes, its own one last. -/
def passed (l : Location) : List Text → List Location
  | [] => []
  | n :: names =>
      let next := if n = back then above l else l ++ [n]
      next :: passed next names

/-- A tree with what a path passes and what stands below it. -/
def readPath (t : Tree) (p : Path) : IO Tree := do
  let start : Location := if p.rooted then [root] else []
  let steps := passed start p.names
  let t ← steps.dropLast.foldlM (readAt 0) t
  readAt reach t (steps.getLast?.getD start)

/-- The tree that the command of a command line works on. -/
def readFor (words : List Text) : IO Tree := do
  let t ← readAt 0 .empty [Settings.fileName]
  match Command.parse words with
  | none => pure t
  | some c => c.paths.foldlM readPath t

/-- Writes what stands in a tree, and did not before, into the file system: what was put there first is
written first. -/
def writeBack (before after : Tree) : IO Unit := do
  for (l, entry) in after.entries.reverse do
    unless before.at? l = some entry do
      let place := (← IO.currentDir) / Text.toString (pathOf l).text
      match entry with
      | .dir => IO.FS.createDir place
      | .file bytes => IO.FS.writeBinFile place ⟨bytes.toArray⟩

/-- What a command line can ask for. -/
def usage : String :=
  "convert DEFINITION OUTPUT_DIR [--config FILE] [--workers N] [--verbose]\n" ++
  "init-config [DIRECTORY]\n" ++
  "templates"

end StepForge

open StepForge in
/-- Runs the command that the words ask for. -/
def main (args : List String) : IO UInt32 := do
  let words := args.map Text.ofString
  let before ← readFor words
  let (ending, shell) := (Command.run words).run ⟨before, .blank, none⟩
  IO.print (Text.toString shell.screen.out)
  writeBack before shell.tree
  match Command.parse words with
  | none => IO.eprintln usage
  | some .help => IO.println usage
  | some _ => pure ()
  match ending.escaped with
  | some f => IO.eprintln (Text.toString f.text)
  | none => pure ()
  pure ending.exit.toUInt32
