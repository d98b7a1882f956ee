import StepForge.Definition.App
import StepForge.Naming.Case
import StepForge.Template.Render

/-!
# `StepForge.Generate.Index` — where steps are written and how they are registered

## Contents
- `stepModulePath`, `stepFileName`, `stepVariable` — the path, file and variable of a step.
- `IndexModule`, `indexModule` — the lines that require and register the steps.
- `IndexModule.bindings` — the same by name.
-/

namespace StepForge.Generate

/-- The path of a step's module from the top of the app. -/
def stepModulePath (c : Category) (key : Text) : Text := c.directory ++ '/'.toNat :: Naming.snakeCase key

/-- The file of a step's module from the top of the app. -/
def stepFileName (c : Category) (key : Text) : Text := stepModulePath c key ++ (".js" : Text)

/-- The variable that holds a step's module in the index, given the word for its category. -/
def stepVariable (key category : Text) : Text :=
  Naming.camelCase key ++ Naming.capitalize (Naming.camelCase category)

/-- The line that requires the module of a step. -/
def requireLine (c : Category) (key : Text) : Text :=
  ("const " : Text) ++ stepVariable key c.name ++ " = require('./" ++ stepModulePath c key ++ "');"

/-- The line that registers the module of a step. -/
def registerLine (c : Category) (key : Text) : Text :=
  let v := stepVariable key c.name
  ("[" : Text) ++ v ++ ".key]: " ++ v ++ ","

/-- The lines of the index that depend on the app. -/
structure IndexModule where
  requires : Text
  triggers : Text
  searches : Text
  writes : Text
  deriving DecidableEq

/-- The lines that register the steps of one category. -/
def registerLines (app : App) (c : Category) : Text :=
  Text.join "\n" ((app.steps c).map fun e => registerLine c e.1)

/-- The index of an app: all steps are required in conversion order and registered by category. -/
def indexModule (app : App) : IndexModule where
  requires := Text.join "\n"
    (Category.all.flatMap fun c => (app.steps c).map fun e => requireLine c e.1)
  triggers := registerLines app .trigger
  searches := registerLines app .search
  writes := registerLines app .write

/-- The names that the template of the index knows. -/
def IndexModule.bindings (m : IndexModule) : Template.Bindings :=
  [("triggers", .str m.triggers), ("searches", .str m.searches), ("writes", .str m.writes),
   ("requires", .str m.requires)]

end StepForge.Generate
