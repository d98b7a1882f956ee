import StepForge.Definition.Category
import StepForge.Value.Parts

/-!
# `StepForge.Definition.App` — an app read out of a loosely typed definition

A definition is never rejected: whatever is missing or of the wrong kind counts as absent. A collection
may be a mapping from keys to entries or a list of entries that carry their own key. Labels, help
texts, placeholders and type words are kept as they are, since they appear verbatim in what is
generated.

## Contents
- `keyedEntries` — the keys and entries of a collection.
- `Field`, `Sample`, `Step`, `App` — the parts of an app, each with `ofValue`.
- `Field.ofParts`, `Sample.ofParts` — fields made out of exactly their own parts.
- `byKey` — entries under distinct keys.
- `App.stepList`, `App.stepCount` — the steps in conversion order.
- `App.textValues` — the values that become texts while an app is read.
-/

namespace StepForge

/-- A value as a mapping: anything else counts as an empty one. -/
def Value.asMap (v : Value) : Value := .map v.entries

/-- The entries of a list, the key of an entry being its own or else its position. -/
def listEntries : Nat → List Value → List (Value × Value)
  | _, [] => []
  | i, v :: vs => ((v.member? "key").getD (.int i), v) :: listEntries (i + 1) vs

/-- The entries of a collection under their keys as they are written. -/
def entriesOf (v : Value) : List (Value × Value) :=
  match v.unfolded with
  | .map es => es
  | .list vs => listEntries 0 vs
  | .tuple vs => listEntries 0 vs
  | _ => []

/-- The keys of a collection with their entries, each entry as a mapping. -/
def keyedEntries (v : Value) : List (Text × Value) :=
  (entriesOf v).map fun e => (e.1.display, e.2.asMap)

/-- Puts a value under a key: a key that is there keeps its place. -/
def putKey {α : Type} (key : Text) (value : α) : List (Text × α) → List (Text × α)
  | [] => [(key, value)]
  | (k, v) :: rest => if k = key then (k, value) :: rest else (k, v) :: putKey key value rest

/-- Entries under distinct keys: of several with one key the last stands at the place of the first. -/
def byKey {α : Type} (entries : List (Text × α)) : List (Text × α) :=
  entries.foldl (fun done e => putKey e.1 e.2 done) []

/-- One input field of a step. -/
structure Field where
  key : Text
  type : Value
  label : Value
  helpText : Value
  required : Bool
  placeholder : Value
  deriving Inhabited

/-- A field as a definition describes it. -/
def Field.ofValue (key : Text) (v : Value) : Field where
  key := key
  type := v.member "type"
  label := v.member "label"
  helpText := v.member "help_text"
  required := (v.member "required").isTruthy
  placeholder := v.member "placeholder"

/-- A value among parts with names; a part that is not given is null. -/
def partOf (parts : List (Text × Value)) (name : Text) : Value := (parts.lookup name).getD .null

/-- The parts that a field can be made out of. -/
def Field.maker : Maker where
  name := "LegacyField.__init__()"
  made := "app_convert.models.LegacyField()"
  parts := some ["key", "type", "label", "help_text", "required", "placeholder"]
  needed := ["key"]

/-- A field made out of its parts, under a key of its own. -/
def Field.ofParts (key : Text) (v : Value) : Except PartFault Field :=
  (Field.maker.named v).map fun parts =>
    { key := key
      type := partOf parts "type"
      label := partOf parts "label"
      helpText := partOf parts "help_text"
      required := (partOf parts "required").isTruthy
      placeholder := partOf parts "placeholder" }

/-- One field of the sample result of a step. -/
structure Sample where
  key : Text
  type : Value
  label : Value
  deriving Inhabited

/-- A sample field as a definition describes it. -/
def Sample.ofValue (key : Text) (v : Value) : Sample where
  key := key
  type := v.member "type"
  label := v.member "label"

/-- The parts that a sample field can be made out of. -/
def Sample.maker : Maker where
  name := "SampleField.__init__()"
  made := "app_convert.models.SampleField()"
  parts := some ["key", "type", "label"]
  needed := ["key"]

/-- A sample field made out of its parts, under a key of its own. -/
def Sample.ofParts (key : Text) (v : Value) : Except PartFault Sample :=
  (Sample.maker.named v).map fun parts =>
    { key := key, type := partOf parts "type", label := partOf parts "label" }

/-- The sample fields of a step as a definition describes them. -/
def samplesOf (v : Value) : List Sample :=
  (keyedEntries (v.member "sample_result_fields")).map fun e => Sample.ofValue e.1 e.2

/-- A trigger, search or action. -/
structure Step where
  key : Text
  fields : List Field
  samples : List Sample
  deriving Inhabited

/-- A step as a definition describes it. -/
def Step.ofValue (key : Text) (v : Value) : Step where
  key := key
  fields := (keyedEntries (v.member "fields")).map fun e => Field.ofValue e.1 e.2
  samples := samplesOf v

/-- A legacy app: its title and description, and its steps by category. -/
structure App where
  title : Text
  description : Text
  triggers : List (Text × Step)
  searches : List (Text × Step)
  actions : List (Text × Step)
  deriving Inhabited

namespace App

/-- The text of a member that counts as given, or the empty text. -/
def givenText (v : Value) : Text := if v.isTruthy then v.display else []

/-- The steps of one collection of a definition. -/
def collectionOf (c : Category) (v : Value) : List (Text × Step) :=
  byKey ((keyedEntries (v.member c.collection)).map fun e => (e.1, Step.ofValue e.1 e.2))

/-- The app that a definition describes. -/
def ofValue (v : Value) : App :=
  let general := v.member "general"
  { title := givenText (general.member "title")
    description := givenText (general.member "description")
    triggers := collectionOf .trigger v
    searches := collectionOf .search v
    actions := collectionOf .write v }

/-- The steps of one category, in the order of the definition. -/
def steps (app : App) : Category → List (Text × Step)
  | .trigger => app.triggers
  | .search => app.searches
  | .write => app.actions

/-- All steps with their category and key, in conversion order. -/
def stepList (app : App) : List (Category × Text × Step) :=
  Category.all.flatMap fun c => (app.steps c).map fun e => (c, e.1, e.2)

/-- The number of steps. -/
def stepCount (app : App) : Nat := (Category.all.map fun c => (app.steps c).length).foldr Nat.add 0

/-- The values that become texts while the app of a definition is read: title and description, and the
keys of steps, fields and sample fields. -/
def textValues (v : Value) : List Value :=
  let general := v.member "general"
  let keys (v : Value) : List Value := (entriesOf v).map (·.1)
  [general.member "title", general.member "description"]
    ++ Category.all.flatMap fun c => (entriesOf (v.member c.collection)).flatMap fun e =>
        e.1 :: (keys (e.2.member "fields") ++ keys (e.2.member "sample_result_fields"))

end App
end StepForge
