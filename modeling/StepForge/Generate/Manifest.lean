import StepForge.Definition.App
import StepForge.Naming.Case
import StepForge.Template.Render

/-!
# `StepForge.Generate.Manifest` — what the manifest of an app says

## Contents
- `Manifest`, `manifest` — the name, description and platform version.
- `Manifest.bindings` — the same by name.
-/

namespace StepForge.Generate

/-- What the manifest says about an app. -/
structure Manifest where
  name : Text
  description : Text
  platformVersion : Value

/-- The version of the platform that generated apps depend on unless settings give another. -/
def defaultPlatformVersion : Value := .str "3.0.0"

/-- The manifest of an app: its name is the title in kebab case. -/
def manifest (app : App) (platformVersion : Value) : Manifest where
  name := Naming.kebabCase app.title
  description := app.description
  platformVersion := platformVersion

/-- The names that the template of the manifest knows. -/
def Manifest.bindings (m : Manifest) : Template.Bindings :=
  [("name", .str m.name), ("description", .str m.description),
   ("platform_core_version", m.platformVersion)]

end StepForge.Generate
