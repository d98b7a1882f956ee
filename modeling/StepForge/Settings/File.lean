import StepForge.Settings.Basic
import StepForge.Yaml.Reader

/-!
# `StepForge.Settings.File` — settings in a file

Settings are read from a given file or from the file of the default name in the working directory, which
may be absent. A given file must be there. How a file is read as YAML is left open, so that all this can be said of
every reader of it.

## Contents
- `fileName`, `place` — the file that is read.
- `fileValue` — YAML as `Yaml.read` reads it.
- `loadWith`, `load` — the settings of a file, with a note on where they come from.
- `defaultText`, `writeDefault` — the file of default settings.
-/

namespace StepForge.Settings

/-- The name of the file of settings. -/
def fileName : Text := "app-convert.yaml"

/-- How the working directory is written where it is named in full. -/
def workingDirectory : Text := "<CWD>"

/-- The file that is read, and how it is written: in full if none is given. -/
def place : Option Path → Path × Text
  | some p => (p, p.text)
  | none => (Path.here / fileName, workingDirectory ++ '/'.toNat :: fileName)

/-- A failed file operation at the file as it is written. -/
def fileFault (written : Text) : FileFault → Fault
  | .system cause _ => .file (.system cause ⟨false, [written]⟩)
  | .nullCharacter => .file .nullCharacter

/-- The fault of a file that holds no text, as `Yaml.read` is given its text. Bytes at its end that begin a code
point are reported by themselves, as a file is read piece by piece. -/
def undecodable (f : Utf8.DecodeFault) : StreamFault :=
  .undecodable (if f.reason = .ending then { f with position := 0 } else f)

/-- The value of the bytes of a file, as `Yaml.read` finds it in their text. All of the text is there before the
first of it is read; a reader that is given a file piece by piece can find a fault of the text before it comes to
bytes that are none. -/
def fileValue (bytes : List UInt8) : Except StreamFault Value :=
  match Utf8.decode bytes with
  | .error f => .error (undecodable f)
  | .ok text => (Yaml.read (Utf8.universalLines text)).mapError .ofYaml

/-- The settings of the value that was read from a file. -/
def ofRead (written : Text) : Except StreamFault Value → Except Fault Settings
  | .error (.malformed message) => .error (.settings (written ++ (": " : Text) ++ message))
  | .error (.undecodable f) => .error (.settings (written ++ (": not UTF-8 text: " : Text) ++ f.message))
  | .error (.other f) => .error f
  | .ok v => match ofValue v with
    | .ok settings => .ok settings
    | .error .unsaid => .error (.value .long)
    | .error f => .error (.settings f.message)

/-- The settings of a file, with a note on where they come from, given how the bytes of a file are read. -/
def loadWith (reader : List UInt8 → Except StreamFault Value) (t : Tree) (given : Option Path) :
    Except Fault (Settings × Text) := do
  let (p, written) := place given
  match t.stat? p with
  | .error f => .error (.file f)
  | .ok none =>
      if given.isNone then .ok ({}, ("No " : Text) ++ fileName ++ " found, using defaults")
      else .error (.settings (("file not found: " : Text) ++ written))
  | .ok (some _) =>
      match t.readBytes p with
      | .error f => .error (fileFault written f)
      | .ok bytes => do
          let settings ← ofRead written (reader bytes)
          .ok (settings, ("Loaded configuration from " : Text) ++ written)

/-- The settings of a file, with a note on where they come from. -/
def load (t : Tree) (given : Option Path) : Except Fault (Settings × Text) := loadWith fileValue t given

/-- The file of default settings. -/
def defaultText : Text :=
  (Setting.all.map fun s =>
    s.name ++ (": " : Text) ++ (match ({} : Settings).get s with
      | .null => "null"
      | v => v.display : Text) ++ [10]).flatten

/-- Writes the file of default settings into a directory, which is made if it is not there, and gives its
path. -/
def writeDefault (t : Tree) (dir : Path) : Tree × Except Fault Path :=
  let p := dir / fileName
  let change := t.writeText p defaultText
  (change.tree, match change.result with
    | .ok () => .ok p
    | .error (.file f) => .error (.file f)
    | .error (.encoding f) => .error (.encoding f)
    | .error (.decoding f) => .error (.decoding f))

end StepForge.Settings
