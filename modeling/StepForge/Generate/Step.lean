import StepForge.Generate.Field
import StepForge.Naming.Case
import StepForge.Template.Render

/-!
# `StepForge.Generate.Step` — what the module of a step says

## Contents
- `StepModule`, `stepModule` — the texts that a step's template is filled with.
- `StepModule.bindings` — the same by name.
-/

namespace StepForge.Generate

/-- The texts that a step's template is filled with. -/
structure StepModule where
  key : Text
  camel : Text
  noun : Text
  lowerNoun : Text
  fields : Text
  sample : Text
  deriving DecidableEq

/-- The name that a key gives: only a text has a lower case. -/
def nameOf : Value → Except ValueFault Text
  | .str t => .ok t
  | v => .error (.lacks v.kind "lower")

/-- The sample of a module, with a comma behind it; a step without sample fields has none. -/
def moduleSample (samples : List Sample) : Except ValueFault Text :=
  if samples.isEmpty then .ok [] else (sampleBlock samples).map (· ++ (",\n" : Text))

/-- The module of a step under a key: its fields one per entry, and its sample. -/
def stepModule (least key : Value) (s : Step) : Except ValueFault StepModule := do
  let fields ← s.fields.mapM fun f => fieldLiteral least (.str f.key) f
  let sample ← moduleSample s.samples
  let name ← nameOf key
  .ok
    { key := Naming.snakeCase name
      camel := Naming.camelCase name
      noun := Naming.capitalize name
      lowerNoun := Text.lower name
      fields := Text.join ",\n" fields
      sample := sample }

/-- The names that a step's template knows. -/
def StepModule.bindings (m : StepModule) : Template.Bindings :=
  [("key", .str m.key), ("camel", .str m.camel), ("noun", .str m.noun),
   ("lower_noun", .str m.lowerNoun), ("fields", .str m.fields), ("sample", .str m.sample)]

end StepForge.Generate
