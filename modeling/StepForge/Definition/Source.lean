import StepForge.Definition.App
import StepForge.Fault
import StepForge.Json.Reader
import StepForge.Yaml.Reader

/-!
# `StepForge.Definition.Source` — definitions in files

A definition is written in YAML if its file says so by its name, and in JSON otherwise. Its top is a
mapping. Faults of the file and of its text are faults of the definition; a number or date that the
text's grammar allows and that does not exist is a fault of its own, and so is a path without bytes. How YAML is
read is left open, so that all this can be said of every reader of it.

## Contents
- `Format`, `formatOf` — how a file is written.
- `yamlValue` — YAML as `Yaml.read` reads it.
- `parse`, `loadWith` — the mapping of a text, and of a file.
- `appOf` — the app of a mapping, unless one of its texts would be too long a number.
- `load`, `loadApp` — the mapping and the app of a file.
-/

namespace StepForge.Definition

/-- How a definition is written. -/
inductive Format where
  | json
  | yaml
  deriving DecidableEq

/-- The format that the name of a file tells. -/
def formatOf (p : Path) : Format :=
  let suffix := Text.lower p.suffix
  if suffix = (".yaml" : Text) || suffix = (".yml" : Text) then .yaml else .json

/-- What cannot be read, with the reason behind a word on the stage. -/
def unreadable (p : Path) (stage reason : Text) : Fault := .definition p.text (stage ++ reason)

/-- The value of a YAML text, as `Yaml.read` finds it. -/
def yamlValue (text : Text) : Except StreamFault Value := (Yaml.read text).mapError .ofYaml

section Reader

variable (yaml : Text → Except StreamFault Value)

/-- The value of a text, given how YAML is read. -/
def parseValue (p : Path) (text : Text) : Except Fault Value :=
  match formatOf p with
  | .yaml => match yaml text with
    | .ok v => .ok v
    | .error (.malformed message) => .error (unreadable p "parse error: " message)
    | .error (.undecodable f) => .error (.decoding f)
    | .error (.other f) => .error f
  | .json => match Json.read text with
    | .ok v => .ok v
    | .error (.longNumeral n) => .error (.json (.longNumeral n))
    | .error f => .error (unreadable p "parse error: " f.message)

/-- The mapping of a text. -/
def parse (p : Path) (text : Text) : Except Fault Value := do
  let v ← parseValue yaml p text
  match v.unfolded with
  | .map _ => .ok v
  | _ => .error (unreadable p "expected a mapping at top level, got " v.kind)

end Reader

/-- The text of a file. -/
def readText (t : Tree) (p : Path) : Except Fault Text :=
  match t.readText p with
  | .ok text => .ok text
  | .error (.file (.system cause _)) => .error (unreadable p [] cause.words)
  | .error (.file .nullCharacter) => .error (.file .nullCharacter)
  -- Only the path can have no bytes.
  | .error (.decoding f) => .error (unreadable p "not UTF-8 text: " f.message)
  | .error (.encoding f) => .error (.encoding f)

/-- The mapping of a file, given how YAML is read. -/
def loadWith (yaml : Text → Except StreamFault Value) (t : Tree) (p : Path) : Except Fault Value := do
  let text ← readText t p
  parse yaml p text

/-- The mapping of a file. -/
def load (t : Tree) (p : Path) : Except Fault Value := loadWith yamlValue t p

/-- The app of a definition; an integer that is too long for a text cannot be a part of one. -/
def appOf (v : Value) : Except Fault App :=
  if (App.textValues v).any Value.isLong then .error (.value .long) else .ok (App.ofValue v)

/-- The app of a file, with a note on what it holds. -/
def loadApp (t : Tree) (p : Path) : Except Fault (App × Text) := do
  let v ← load t p
  let app ← appOf v
  .ok (app, ("Loaded '" : Text) ++ app.title ++ "' with " ++ Text.ofNat app.stepCount ++ " steps from " ++ p.text)

end StepForge.Definition
