import StepForge.Text.Basic

/-!
# `StepForge.Tree.Path` — paths of files and directories

A path is a list of names. Empty names and names of one dot are dropped when a path is read; names of
two dots stay, since what they lead to depends on the tree.

## Contents
- `Path`, `Path.ofText`, `Path.text` — paths and their written form.
- `/`, `join`, `parent`, `name`, `suffix` — the parts of paths.
-/

namespace StepForge

/-- A path: names from the root or from the working directory. -/
structure Path where
  rooted : Bool
  names : List Text
  deriving DecidableEq

namespace Path

/-- The working directory. -/
def here : Path := ⟨false, []⟩

/-- The names that a text lists between slashes. -/
def namesOf (t : Text) : List Text :=
  (Text.splitOn '/'.toNat t).filter fun n => !n.isEmpty && n ≠ ("." : Text)

/-- The path that a text writes. -/
def ofText (t : Text) : Path := ⟨t.head? == some '/'.toNat, namesOf t⟩

/-- The written form of a path: a dot for the working directory. -/
def text (p : Path) : Text :=
  if p.rooted then '/'.toNat :: Text.join "/" p.names
  else if p.names.isEmpty then "."
  else Text.join "/" p.names

/-- A path below another one; a rooted path stays where it is. -/
def join (p q : Path) : Path := if q.rooted then q else ⟨p.rooted, p.names ++ q.names⟩

instance : HDiv Path Text Path := ⟨fun p t => p.join (ofText t)⟩

/-- The path without its last name. -/
def parent (p : Path) : Path := { p with names := p.names.dropLast }

/-- The last name of a path. -/
def name (p : Path) : Text := p.names.getLast?.getD []

/-- The last name from its last dot on, unless that dot is at either end of the name. -/
def suffix (p : Path) : Text :=
  let tail := p.name.reverse.takeWhile (· ≠ '.'.toNat)
  if tail.isEmpty || p.name.length ≤ tail.length + 1 then [] else '.'.toNat :: tail.reverse

end Path
end StepForge
