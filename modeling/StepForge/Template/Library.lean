import StepForge.Template.Bundled
import StepForge.Template.Render
import StepForge.Tree.Files

/-!
# `StepForge.Template.Library` — templates by name, each read once

Templates are files below one directory, or the bundled ones. A name is looked up twice. First it is asked
whether it is that of a file; a rooted name is then looked for where it says. Then the source is read, always
below the home, whatever the name begins with. A template that was read is kept: later
changes to its file are not seen. A name that cannot be read leaves the library as it was.

How a source becomes a template is left open, so that all this can be said of every way to compile templates. A
library is a store of the templates that `Template.read` makes.

## Contents
- `Home`, `bundledTree` — where templates come from.
- `LoadFault` — why a template cannot be had.
- `Home.path`, `Home.source`, `Home.template` — the file of a name, its source, and the template made of it.
- `Store`, `load`, `names` — templates by name, however they are compiled.
- `Library` — templates as `Template.read` makes them.
-/

namespace StepForge.Template

/-- Where templates come from. -/
inductive Home where
  | bundled
  | directory (p : Path)
  deriving DecidableEq

/-- The directory of the bundled templates in their own tree. -/
def bundledDirectory : Path := .ofText "convert"

/-- A tree with one more file; a text that cannot be written adds none. -/
def withFile (t : Tree) (p : Path) (text : Text) : Tree := (t.writeText p text).tree

/-- The bundled templates as files. -/
def bundledTree : Tree :=
  bundled.foldl (fun t file => withFile t (bundledDirectory / file.1) file.2) Tree.empty

/-! ## Faults -/

/-- Why a name has no source: there is no file, or its bytes are no text. -/
inductive SourceFault where
  | missing
  | decoding (fault : Utf8.DecodeFault)

/-- Why a source is no template: a fault of templates, which is reported as a template that is missing, or any
other. -/
inductive CompileFault where
  | template
  | other (message : Text)

/-- Why a template cannot be had: there is none that can be read under the name, its file is no text, the
name itself cannot be looked up, or it cannot be compiled for a reason that templates do not have. -/
inductive LoadFault where
  | missing (name home : Text)
  | decoding (fault : Utf8.DecodeFault)
  | file (fault : FileFault)
  | compiling (message : Text)

/-! ## Homes -/

/-- How a source is made a template, given the name that it has. -/
abbrev Compiler (α : Type) := (name source : Text) → Except CompileFault α

namespace Home

/-- The written form of the home; the bundled templates stand in no directory that has a name. -/
def text : Home → Text
  | bundled => "<TEMPLATES>"
  | directory p => p.text

/-- The tree and the directory in which the templates stand, given the tree at hand. -/
def place (h : Home) (t : Tree) : Tree × Path :=
  match h with
  | bundled => (bundledTree, bundledDirectory)
  | directory p => (t, p)

/-- The written form of the path of a template. -/
def pathText (h : Home) (name : Text) : Text :=
  let q := Path.ofText name
  match h with
  | directory p => (p.join q).text
  | bundled => if q.rooted then q.text else h.text ++ q.names.flatMap ('/'.toNat :: ·)

/-- The tree and the path at which a name is looked for: below the home, or, if it is rooted, where it says in the
tree at hand. -/
def lookout (h : Home) (t : Tree) (name : Text) : Tree × Path :=
  let q := Path.ofText name
  if q.rooted then (t, q) else ((h.place t).1, (h.place t).2.join q)

/-- The path of a template that is a file. -/
def path (h : Home) (t : Tree) (name : Text) : Except LoadFault Text :=
  let (files, p) := h.lookout t name
  match files.stat? p with
  | .error fault => .error (.file fault)
  | .ok (some (.file _)) => .ok (h.pathText name)
  | .ok _ => .error (.missing name h.text)

/-- The path from which a source is read: the names that a name lists, below a directory. -/
def sourcePath (dir : Path) (name : Text) : Path := dir.join ⟨false, Path.namesOf name⟩

/-- The written form of that path, in which the working directory is written like any other. -/
def sourceText (dir : Path) (name : Text) : Text :=
  if dir = .here && !(Path.namesOf name).isEmpty then ("./" : Text) ++ (sourcePath dir name).text
  else (sourcePath dir name).text

/-- The source of a name. A name with two dots between slashes has none. -/
def source (h : Home) (t : Tree) (name : Text) : Except SourceFault Text :=
  let (files, dir) := h.place t
  if (Path.namesOf name).contains back || pathLimit ≤ nameSize (sourceText dir name) then .error .missing
  else match files.readText (sourcePath dir name) with
    | .ok text => .ok text
    | .error (.decoding fault) => .error (.decoding fault)
    | .error _ => .error .missing

/-- The template of the source of a name. -/
def compiled {α : Type} (h : Home) (compile : Compiler α) (t : Tree) (name : Text) : Except LoadFault α :=
  match h.source t name with
  | .error .missing => .error (.missing name h.text)
  | .error (.decoding fault) => .error (.decoding fault)
  | .ok text => match compile name text with
    | .ok template => .ok template
    | .error .template => .error (.missing name h.text)
    | .error (.other message) => .error (.compiling message)

/-- The template of a name that is that of a file. -/
def template {α : Type} (h : Home) (compile : Compiler α) (t : Tree) (name : Text) : Except LoadFault α := do
  let _ ← h.path t name
  h.compiled compile t name

end Home

/-! ## Stores -/

/-- Templates of one home that were read. -/
structure Store (α : Type) where
  home : Home
  known : List (Text × α)

namespace Store

variable {α : Type}

/-- The store of a home, with nothing read. -/
def ofHome (h : Home) : Store α := ⟨h, []⟩

/-- The path of a template that is a file. -/
def path (l : Store α) (t : Tree) (name : Text) : Except LoadFault Text := l.home.path t name

/-- A template, and the store that keeps it. -/
def load (l : Store α) (compile : Compiler α) (t : Tree) (name : Text) : Except LoadFault (α × Store α) :=
  match l.known.lookup name with
  | some template => .ok (template, l)
  | none => (l.home.template compile t name).map fun template =>
      (template, { l with known := (name, template) :: l.known })

/-- The names of all entries that end as templates do, ascending. A directory whose path is too long cannot be
looked into. -/
def names (l : Store α) (t : Tree) : Except FileFault (List Text) := do
  let (files, dir) := l.home.place t
  match ← files.stat? dir with
  | none => .ok []
  | some _ =>
      let found := files.listing dir
      match found.find? fun e => e.2 = .dir && pathLimit ≤ nameSize (dir / e.1).text with
      | some e => .error (.system .nameTooLong (dir / e.1))
      | none => .ok ((found.map (·.1)).filter fun n => Text.endsWith n ".j2")

end Store

/-! ## Libraries -/

/-- A template made of its source by `Template.read`. -/
def nodesOf : Compiler (List Node) := fun _ source => (read source).mapError fun _ => .template

/-- Templates as `Template.read` makes them. -/
abbrev Library := Store (List Node)

namespace Library

/-- The library of a home, with nothing read. -/
def ofHome (h : Home) : Library := Store.ofHome h

/-- The library of the bundled templates. -/
def standard : Library := ofHome .bundled

/-- The nodes of a template from its file. -/
def readFile (l : Library) (t : Tree) (name : Text) : Except LoadFault (List Node) := l.home.template nodesOf t name

/-- A template, and the library that keeps it. -/
def load (l : Library) (t : Tree) (name : Text) : Except LoadFault (List Node × Library) := Store.load l nodesOf t name

end Library
end StepForge.Template
