import StepForge.Generate.Index
import StepForge.Generate.Manifest
import StepForge.Generate.Step
import StepForge.Settings.Basic
import StepForge.Template.Library

/-!
# `StepForge.Conversion.Plan` — the files of a converted app

Each file is planned as a task: a name below the output directory and what the file shows. Steps come
first, in conversion order, then the index and the manifest.

## Contents
- `Artifact`, `Task`, `plan` — what is planned.
- `Artifact.template`, `Artifact.bindings` — the template of a file and what it is filled with.
- `Engine` — how templates are compiled and rendered; `Engine.load`, `Engine.fill` use one on a store.
- `nodeEngine`, `fillNamed`, `fillWith` — templates of a library filled with values.
- `Artifact.render`, `renderAll` — the text of a file, and of all files.
-/

namespace StepForge.Conversion

/-- What a generated file shows. -/
inductive Artifact where
  | step (c : Category) (key : Text) (s : Step)
  | index
  | manifest

/-- A file to be generated, by its name below the output directory. -/
structure Task where
  fileName : Text
  artifact : Artifact

/-- All files of a converted app. -/
def plan (app : App) : List Task :=
  (app.stepList.map fun (c, key, s) => ⟨Generate.stepFileName c key, .step c key s⟩)
    ++ [⟨"index.js", .index⟩, ⟨"package.json", .manifest⟩]

/-- The name of the template of a step, given the word for its category. -/
def stepTemplate (category : Text) : Text := category ++ (".js.j2" : Text)

namespace Artifact

/-- The name of the template of a file. -/
def template : Artifact → Text
  | step c _ _ => stepTemplate c.name
  | index => "index.js.j2"
  | manifest => "package.json.j2"

/-- What the template of a file is filled with. -/
def bindings (app : App) (settings : Settings) : Artifact → Except ValueFault Template.Bindings
  | step _ key s => (Generate.stepModule settings.leastHelp (.str key) s).map Generate.StepModule.bindings
  | index => .ok (Generate.indexModule app).bindings
  | manifest => .ok (Generate.manifest app settings.platformVersion).bindings

end Artifact

/-! ## Engines -/

/-- The fault of a template that cannot be had. -/
def loadFault : Template.LoadFault → Fault
  | .missing name home => .template (.str name) home
  | .decoding f => .decoding f
  | .file f => .file f
  | .compiling message => .raised .other [.str message]

/-- How templates are compiled and rendered. A rendering can read the sources of further templates by their
names, and depends on nothing else but its template and the values. -/
structure Engine (α : Type) where
  compile : Template.Compiler α
  render : (template : α) → (sources : Text → Except Template.SourceFault Text) → Template.Bindings →
    Except Fault Text

/-- The engine of libraries. Its templates name no further ones. -/
def nodeEngine : Engine (List Template.Node) where
  compile := Template.nodesOf
  render nodes _ values := (Template.render nodes values).mapError .rendering

/-- The name under which a template is looked up, which must be a key before it is a name. -/
def lookupName (v : Value) : Except Fault Text :=
  if v.isKey then v.pathName.mapError .value else .error (.lookup (.notAKey v))

/-- The filling of a template out of a mapping: every name can be that of a value. -/
def fillMaker : Maker where
  name := "Template.render()"
  made := "jinja2.environment.Template.render()"
  parts := none
  needed := []

namespace Engine

variable {α : Type} (engine : Engine α)

/-- A template, and the store behind it. -/
def load (t : Tree) (l : Template.Store α) (name : Text) : Except Fault α × Template.Store α :=
  match l.load engine.compile t name with
  | .error f => (.error (loadFault f), l)
  | .ok (template, l) => (.ok template, l)

/-- A template filled with values, and the store behind it: what was read stays known when the filling fails. -/
def fill (t : Tree) (l : Template.Store α) (name : Text) (values : Template.Bindings) :
    Except Fault Text × Template.Store α :=
  let (r, l) := engine.load t l name
  (r.bind fun template => engine.render template (l.home.source t) values, l)

/-- A template filled with values that may themselves fail: they come before the template. -/
def fillWith (t : Tree) (l : Template.Store α) (name : Text) (values : Except ValueFault Template.Bindings) :
    Except Fault Text × Template.Store α :=
  match values with
  | .error f => (.error (.value f), l)
  | .ok values => engine.fill t l name values

/-- A template of a name that may be any value, and the store behind it. -/
def loadNamed (t : Tree) (l : Template.Store α) (name : Value) : Except Fault α × Template.Store α :=
  match lookupName name with
  | .error f => (.error f, l)
  | .ok name => engine.load t l name

/-- What a template makes of the values of a mapping. -/
def rendered (sources : Text → Except Template.SourceFault Text) (template : α) (values : Value) :
    Except Fault Text :=
  match fillMaker.named values with
  | .error f => .error (.parts f)
  | .ok values => engine.render template sources values

/-- A template filled with the values of a mapping. The template is read before they are looked at. -/
def fillNamed (t : Tree) (l : Template.Store α) (name values : Value) : Except Fault Text × Template.Store α :=
  let (r, l) := engine.loadNamed t l name
  (r.bind fun template => engine.rendered (l.home.source t) template values, l)

end Engine

/-- A template of a library filled with the values of a mapping. -/
def fillNamed (t : Tree) (l : Template.Library) (name values : Value) : Except Fault Text × Template.Library :=
  nodeEngine.fillNamed t l name values

/-- A template of a library filled with values that may themselves fail. -/
def fillWith (t : Tree) (l : Template.Library) (name : Text) (values : Except ValueFault Template.Bindings) :
    Except Fault Text × Template.Library :=
  nodeEngine.fillWith t l name values

/-- The text of a file, and the library behind it. -/
def Artifact.render (app : App) (settings : Settings) (t : Tree) (l : Template.Library) (a : Artifact) :
    Except Fault Text × Template.Library :=
  fillWith t l a.template (a.bindings app settings)

/-- The names and texts of all planned files, one after another. -/
def renderAll (app : App) (settings : Settings) (t : Tree) :
    Template.Library → List Task → Except Fault (List (Text × Text))
  | _, [] => .ok []
  | l, task :: tasks =>
      let (r, l) := task.artifact.render app settings t l
      match r with
      | .error f => .error f
      | .ok text => (renderAll app settings t l tasks).map fun more => (task.fileName, text) :: more

end StepForge.Conversion
