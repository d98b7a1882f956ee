import StepForge.Proofs.Conversion.Rendering
import StepForge.Proofs.Naming.Points
import StepForge.Proofs.Template.Bundled
import StepForge.Proofs.Template.Manifest

/-!
# `StepForge.Proofs.Conversion.Manifest` — when a manifest is a JSON text

The description of an app stands between quotes as it is. The manifest says what it should exactly if the
description is plain: any other is either no part of a JSON text, or is read as something else. The name is
plain for every title, since it is made of letters, digits and hyphens.

## Contents
- `plain_kebabCase` — names in kebab case are plain.
- `manifest_render` — the text of the manifest.
- `manifest_read_iff_plain` — that it is read as it should exactly if the description is plain.
-/

namespace StepForge.Conversion

theorem plain_of_isNamePoint {c : Nat} (h : Naming.isNamePoint c = true) :
    c ≠ '"'.toNat ∧ c ≠ '\\'.toNat ∧ 0x20 ≤ c := by
  show c ≠ 34 ∧ c ≠ 92 ∧ 32 ≤ c
  simp only [Naming.isNamePoint, Bool.or_eq_true, Bool.and_eq_true, decide_eq_true_eq] at h
  omega

/-- **A name in kebab case** can stand between double quotes, whatever it was made of. -/
theorem plain_kebabCase (t : Text) : Json.Plain (Naming.kebabCase t) := by
  intro c hc
  rcases Text.mem_join hc with h | ⟨w, hw, hc⟩
  · rw [List.mem_singleton.1 h]
    decide
  · exact plain_of_isNamePoint ((Naming.smallWords_spec hw).2 c hc)

/-- The text of the manifest, if the version of the platform is a text. -/
theorem manifest_render (app : App) (settings : Settings) (t : Tree) {version : Text}
    (hversion : settings.platformVersion = .str version) :
    (Artifact.manifest.render app settings t Template.Library.standard).1 =
      .ok (Template.manifestText (Naming.kebabCase app.title) app.description version) := by
  have hbundled : (("package.json.j2" : Text), Template.manifestSource) ∈ Template.bundled := by
    unfold Template.bundled
    exact List.mem_cons_of_mem _ List.mem_cons_self
  have hgives := Template.standard_gives hbundled Template.read_manifest t
  have hrender := Template.render_manifest (m := Generate.manifest app settings.platformVersion) hversion
  exact Artifact.render_eq_ok_iff.2 ⟨_, _, rfl, hgives, hrender⟩

/-- **A manifest is read as it should exactly if the description is plain.** Whatever the title is, the manifest
is rendered if the version is plain. If the description holds no quotes, no backslashes and no control
characters, the text is a JSON text with the name, the description and the version as they are; if it holds any
of them, it is no JSON text or one with another description. -/
theorem manifest_read_iff_plain (app : App) (settings : Settings) (t : Tree) {version : Text}
    (hversion : settings.platformVersion = .str version) (hplain : Json.Plain version) :
    ∃ text, (Artifact.manifest.render app settings t Template.Library.standard).1 = .ok text ∧
      ((∃ v, Json.read text = .ok v ∧ v.member? "description" = some (.str app.description)) ↔
        Json.Plain app.description) ∧
      (Json.Plain app.description → ∃ v dependencies, Json.read text = .ok v ∧
        v.member? "name" = some (.str (Naming.kebabCase app.title)) ∧
        v.member? "dependencies" = some dependencies ∧
        dependencies.member? "zapier-platform-core" = some (.str version)) := by
  have hname := plain_kebabCase app.title
  refine ⟨_, manifest_render app settings t hversion, ⟨?_, ?_⟩, ?_⟩
  · rintro ⟨v, hread, hmember⟩
    exact Template.plain_of_read_manifestText hname hplain hread hmember
  · intro hdescription
    exact ⟨_, Template.read_manifestText hname hdescription hplain, Template.member_description⟩
  · intro hdescription
    obtain ⟨dependencies, hdependencies, hcore⟩ := Template.member_dependencies
    have hread := Template.read_manifestText hname hdescription hplain
    exact ⟨_, dependencies, hread, Template.member_name, hdependencies, hcore⟩

/-- An app with a plain description. -/
def plainApp : App where
  title := "Acme \"CRM\" (Beta)!"
  description := "Contacts, deals: all of them."
  triggers := []
  searches := []
  actions := []

/-- An app whose description closes its string and gives another description. -/
def forgingApp : App := { plainApp with description := "x\", \"description\": \"y" }

theorem plainApp_read_forgingApp_not :
    (default : Settings).platformVersion = .str "3.0.0" ∧ Json.Plain ("3.0.0" : Text) ∧
      (∃ text v, (Artifact.manifest.render plainApp default Tree.empty Template.Library.standard).1 = .ok text ∧
        Json.read text = .ok v ∧ v.member? "name" = some (.str "acme-crm-beta")) ∧
      ∃ text, (Artifact.manifest.render forgingApp default Tree.empty Template.Library.standard).1 = .ok text ∧
        ¬ ∃ v, Json.read text = .ok v ∧ v.member? "description" = some (.str forgingApp.description) := by
  have hversion : (default : Settings).platformVersion = .str "3.0.0" := rfl
  have hplain : Json.Plain ("3.0.0" : Text) := by decide
  have hname : Naming.kebabCase plainApp.title = ("acme-crm-beta" : Text) := by decide +kernel
  refine ⟨hversion, hplain, ?_, ?_⟩
  · obtain ⟨text, hrender, _, hread⟩ := manifest_read_iff_plain plainApp default Tree.empty hversion hplain
    obtain ⟨v, _, hv, hmember, _, _⟩ := hread (by decide)
    rw [hname] at hmember
    exact ⟨text, v, hrender, hv, hmember⟩
  · obtain ⟨text, hrender, hiff, _⟩ := manifest_read_iff_plain forgingApp default Tree.empty hversion hplain
    exact ⟨text, hrender, fun hread => absurd (hiff.1 hread) (by decide)⟩

end StepForge.Conversion
