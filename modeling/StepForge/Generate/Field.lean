import StepForge.Definition.App
import StepForge.Text.LetterCase
import StepForge.Value.Fault
import StepForge.Value.Quantity

/-!
# `StepForge.Generate.Field` — input fields and sample results as object literals

Malformed data is no fault here: a missing type falls back to a string, short or missing help text is
followed by a visible note, and labels and placeholders are quoted as given, without escapes. Only an
integer that is too long for a text is one, and a least length that is no number.

## Contents
- `fieldTypes`, `fieldType` — the vocabulary of field types.
- `paddedHelp` — help text that is long enough or says what is missing.
- `fieldLiteral` — one input field.
- `sampleLiteral`, `sampleBlock` — one sample field, and the sample of a step.
-/

namespace StepForge.Generate

/-! ## Field types -/

/-- The words for field types in definitions, with the words in generated modules. -/
def fieldTypes : List (Text × Text) :=
  [("unicode", "string"), ("textarea", "text"), ("integer", "integer"), ("float", "number"),
   ("boolean", "boolean"), ("datetime", "datetime"), ("file", "file"), ("password", "password")]

/-- The generated word for a word of a definition, exactly as spelled. -/
def fieldTypeOf? (word : Text) : Option Text := fieldTypes.lookup word

/-- The generated word for a type in any letter case; whatever the vocabulary lacks is a string. -/
def fieldType : Value → Text
  | .str word => (fieldTypeOf? (Text.lower word)).getD "string"
  | _ => "string"

/-! ## Help text -/

/-- The least length unless settings give another. -/
def defaultLeast : Value := .int 10

/-- The note that names the least length, which may be any value. -/
def lengthNote (least : Value) : Except ValueFault Text :=
  least.written.map fun t => ("(help text must be at least " : Text) ++ t ++ " characters)"

/-- Whether a least length is more than a length; only a number can be. -/
def exceedsLength (least : Value) (length : Nat) : Except ValueFault Bool :=
  match Quantity.ofValue? least with
  | some q => .ok (q.exceeds length)
  | none => .error (.unordered "<" "int" least.kind)

/-- Help text that is long enough as it is, followed by the note if it is too short; what is no text
is replaced by the note. -/
def paddedHelp (least help : Value) : Except ValueFault Text := do
  let note ← lengthNote least
  match help with
  | .str t =>
      let short ← exceedsLength least t.length
      .ok (if short then t ++ ' '.toNat :: note else t)
  | _ => .ok note

/-! ## Literals -/

/-- As many blanks. -/
def indent (width : Nat) : Text := List.replicate width ' '.toNat

/-- A property of an object literal. -/
def property (name value : Text) : Text := name ++ (": " : Text) ++ value

/-- The properties of a field, in order; a placeholder only if one is given. -/
def fieldProperties (least key : Value) (f : Field) : Except ValueFault (List Text) := do
  let key ← key.quotedInScript
  let label ← f.label.quotedInScript
  let help ← paddedHelp least f.helpText
  let placeholder ←
    if f.placeholder.isTruthy then do
      let t ← f.placeholder.quotedInScript
      pure [property "placeholder" t]
    else pure []
  .ok ([property "key" key,
    property "label" label,
    property "helpText" (Value.scriptQuoted (.str help)),
    property "type" (Value.scriptQuoted (.str (fieldType f.type))),
    property "required" (Value.scriptText (.bool f.required))] ++ placeholder)

/-- One input field: braces behind six blanks, properties behind eight. -/
def fieldLiteral (least key : Value) (f : Field) : Except ValueFault Text :=
  (fieldProperties least key f).map fun properties =>
    indent 6 ++ ("\x7b\n" : Text)
      ++ Text.join ",\n" (properties.map (indent 8 ++ ·))
      ++ "\n" ++ indent 6 ++ "\x7d"

/-- The generated type of a sample field: the word is looked up as spelled, and one that is unknown is
undefined. -/
def sampleType : Value → Value
  | .str word => match fieldTypeOf? word with
    | some t => .str t
    | none => .null
  | _ => .null

/-- One sample field. -/
def sampleLiteral (key : Text) (s : Sample) : Except ValueFault Text :=
  s.label.quotedInScript.map fun label =>
    indent 6 ++ key ++ (": \x7b\n" : Text)
      ++ indent 8 ++ property "type" (sampleType s.type).scriptQuoted ++ ",\n"
      ++ indent 8 ++ property "label" label ++ "\n"
      ++ indent 6 ++ "\x7d"

/-- The sample of a step: its fields between braces behind four blanks. -/
def sampleBlock (samples : List Sample) : Except ValueFault Text :=
  (samples.mapM fun s => sampleLiteral s.key s).map fun literals =>
    indent 4 ++ ("sample: \x7b\n" : Text)
      ++ Text.join ",\n" literals
      ++ "\n" ++ indent 4 ++ "\x7d"

end StepForge.Generate
