import StepForge.Console.Markup
import StepForge.Definition.Category
import StepForge.Json.Reader
import StepForge.Template.Library
import StepForge.Tree.Files
import StepForge.Value.Fault
import StepForge.Value.Parts
import StepForge.Yaml.Cursor

/-!
# `StepForge.Fault` — what can go wrong

Faults of the library have a message and mostly a suggestion. Faults from below keep the message of the
module that finds them. A message, a suggestion and a name may be any value where a fault is raised by hand.

## Contents
- `RaisedKind`, `Fault` — the faults.
- `StreamFault` — the faults of a YAML stream, whatever reads it.
- `isOwn`, `message`, `suggestion`, `text` — what a fault says.
- `spoken` — the text of a fault, unless its message is none.
- `markupText` — what a fault says on the console.
-/

namespace StepForge

/-- The kinds of faults that are raised with loose values. -/
inductive RaisedKind where
  | value
  | key
  | system
  | runtime
  | other
  deriving DecidableEq

/-- A fault. -/
inductive Fault where
  /-- A fault of no particular kind. -/
  | general (message suggestion : Value)
  /-- A definition cannot be read. -/
  | definition (path details : Text)
  /-- A fault in settings of no particular kind. -/
  | configuration (message suggestion : Value)
  /-- Settings are not valid. -/
  | settings (details : Text)
  /-- A fault in generating of no particular kind. -/
  | generation (message suggestion : Value)
  /-- A template cannot be had. -/
  | template (name : Value) (home : Text)
  /-- A file of a conversion cannot be generated; the files written before are named. -/
  | conversion (file : Value) (cause : Fault) (written : List Text)
  | file (fault : FileFault)
  | encoding (fault : Utf8.EncodeFault)
  | decoding (fault : Utf8.DecodeFault)
  | rendering (fault : Template.RenderFault)
  | lookup (fault : LookupFault)
  | yaml (fault : Yaml.Fault)
  | json (fault : Json.Fault)
  | markup (fault : Console.MarkupFault)
  | value (fault : ValueFault)
  | parts (fault : PartFault)
  /-- No worker is asked for. -/
  | noWorkers
  | raised (kind : RaisedKind) (args : List Value)

/-- The text of a fault of a YAML stream. What is said of a malformed one is left open: a word stands for it. -/
def Yaml.Fault.message : Yaml.Fault → Text
  | malformed => "<yaml>"
  | value m => m
  | range m => m
  | word w => Text.quoted w
  | empty => "string index out of range"
  | unmatched => "'NoneType' object has no attribute 'groupdict'"
  | composite => "expected string or bytes-like object, got 'list'"

/-- Why the value of a YAML stream cannot be had: the stream is malformed, with the text of the fault, its bytes are
no text, or there is any other fault. -/
inductive StreamFault where
  | malformed (message : Text)
  | undecodable (fault : Utf8.DecodeFault)
  | other (fault : Fault)

/-- The fault of a stream that `Yaml.read` finds. Of several faults that is the first in the order of the text; a
reader that scans ahead can find another one. -/
def StreamFault.ofYaml : Yaml.Fault → StreamFault
  | .malformed => .malformed Yaml.Fault.malformed.message
  | f => .other (.yaml f)

/-- The text of loose values: none, one by itself, or all between brackets. -/
def argsText : List Value → Text
  | [] => []
  | [v] => v.display
  | vs => (Value.tuple vs).display

/-- Whether an operation that fails with a number would have had to wait. -/
def isWaiting : Value → Bool
  | .int n => [11, 114, 115].contains n
  | _ => false

/-- Whether a third value says how much was done before an operation would have had to wait. -/
def isProgress (number v : Value) : Bool := isWaiting number && v.number?.isSome

/-- The names of a failed operation of the system, behind its reason. -/
def namesText (number file other : Value) : Text :=
  if file matches .null then []
  else if isProgress number file then []
  else if other matches .null then (": " : Text) ++ file.spelled
  else (": " : Text) ++ file.spelled ++ " -> " ++ other.spelled

/-- The text of a failed operation of the system: number, reason and up to two names. -/
def systemText : List Value → Text
  | number :: reason :: rest =>
      let front := ("[Errno " : Text) ++ number.display ++ "] " ++ reason.display
      match rest with
      | [] => front
      | [file] | [file, _] => front ++ namesText number file .null
      | [file, _, other] => front ++ namesText number file other
      | _ => argsText (number :: reason :: rest)
  | vs => argsText vs

/-- The text of a fault raised with loose values. -/
def RaisedKind.text : RaisedKind → List Value → Text
  | key, [v] => v.spelled
  | system, vs => systemText vs
  | _, vs => argsText vs

/-- A message with its suggestion behind it, if one is given. -/
def suggested (message : Text) (suggestion : Value) : Text :=
  if suggestion.isTruthy then message ++ ("\n\nSuggestion: " : Text) ++ suggestion.display else message

namespace Fault

/-- What to do about a definition that cannot be read. -/
def definitionSuggestion (path : Text) : Text :=
  ("The definition must be a JSON (.json) or YAML (.yaml, .yml) export\n" : Text)
    ++ "whose top level is a mapping with 'general', 'triggers', 'searches'\n"
    ++ "and 'actions' keys:\n"
    ++ "  ls -l " ++ path

/-- What to do about settings that are not valid. -/
def settingsSuggestion : Text :=
  ("Fix the app-convert.yaml file.\n" : Text)
    ++ "You can regenerate the default configuration:\n"
    ++ "  mv app-convert.yaml app-convert.yaml.backup\n"
    ++ "  app-convert init-config .\n\n"
    ++ "Then merge your settings back from the backup."

/-- What to do about a template that cannot be had. -/
def templateSuggestion : Text :=
  ("The bundled templates ship with the package. Reinstall app-convert:\n" : Text)
    ++ "  pip install --force-reinstall app-convert"

/-- What to do about a conversion that failed. -/
def conversionSuggestion : Text :=
  ("No files were rolled back. Fix the problem and re-run the conversion;\n" : Text)
    ++ "existing files in the output directory are overwritten."

/-- Whether a fault is one of the library, and not from below. -/
def isOwn : Fault → Bool
  | general _ _ | definition _ _ | configuration _ _ | settings _ | generation _ _ | template _ _
  | conversion _ _ _ => true
  | _ => false

/-- What to do about a fault; null for one that is not of the library. -/
def suggestion : Fault → Value
  | general _ s | configuration _ s | generation _ s => s
  | definition path _ => .str (definitionSuggestion path)
  | settings _ => .str settingsSuggestion
  | template _ _ => .str templateSuggestion
  | conversion _ _ _ => .str conversionSuggestion
  | _ => .null

/-- The list of files written before a failure. -/
def writtenText (written : List Text) : Text :=
  if written.isEmpty then []
  else ("\n\nFiles written before the failure:\n  - " : Text) ++ Text.join "\n  - " written

/-- What a fault says, without what to do about it. A conversion that failed says all about its cause. -/
def message : Fault → Text
  | general m _ | configuration m _ | generation m _ => m.display
  | definition path details => ("Could not load legacy app definition " : Text) ++ path ++ ": " ++ details
  | settings details => ("Invalid configuration file: " : Text) ++ details
  | template name home => ("Template '" : Text) ++ name.display ++ "' not found in " ++ home
  | conversion name cause written =>
      ("Failed to generate " : Text) ++ name.display ++ ": "
        ++ suggested cause.message cause.suggestion ++ writtenText written
  | file f => f.message
  | encoding f => f.message
  | decoding f => f.message
  | rendering f => f.message
  | lookup f => f.message
  | yaml f => f.message
  | json f => f.message
  | markup f => f.message
  | value f => f.message
  | parts f => f.message
  | noWorkers => "max_workers must be greater than 0"
  | raised kind args => kind.text args

/-- What a fault says, with what to do about it. -/
def text (f : Fault) : Text := suggested f.message f.suggestion

/-- The text of a fault: a message that is no text has none unless a suggestion stands behind it. -/
def spoken (f : Fault) : Except ValueFault Text :=
  match f with
  | general m s | configuration m s | generation m s =>
      if s.isTruthy || m matches .str _ then .ok f.text else .error (.notSpoken m.kind)
  | f => .ok f.text

/-- What a fault says on the console, as a text with tags. -/
def markupText (f : Fault) : Text :=
  ("[red]Error:[/red] " : Text) ++ f.message
    ++ (if f.suggestion.isTruthy then ("\n\n[yellow]" : Text) ++ f.suggestion.display ++ "[/yellow]" else [])

end Fault
end StepForge
