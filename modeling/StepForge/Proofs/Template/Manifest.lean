import StepForge.Generate.Manifest
import StepForge.Proofs.Json.Layout
import StepForge.Proofs.Template.Index

/-!
# `StepForge.Proofs.Template.Manifest` — the template of the manifest

The template is a JSON text laid out in lines, with three places for texts: the name of the app, its
description, and the version of the platform it depends on.

## Contents
- `manifestMembers`, `manifestText` — what the manifest says, and how it is laid out.
- `render_manifest` — that this is the text of a manifest.
- `read_manifestText`, `member_description`, `member_name`, `member_dependencies` — plain texts are read back.
- `plain_of_read_manifestText` — a description that is read back is plain.
-/

namespace StepForge.Template

open Json

/-! ## What the manifest says -/

/-- The space in front of members, and behind the last of them. -/
def outerGap : Text := "\n  "

/-- The space in front of members of members. -/
def innerGap : Text := "\n    "

/-- A member that is a mapping of texts. -/
def textsMember (name : Text) (entries : List (Text × Text)) : Member :=
  let ms := entries.map fun e => Member.ofText e.1 e.2
  ⟨name, mappingText innerGap outerGap ms, .map (Value.ofEntries (ms.map Member.entry))⟩

/-- The members of a manifest. -/
def manifestMembers (name description version : Text) : List Member :=
  [.ofText "name" name,
   .ofText "version" "1.0.0",
   .ofText "description" description,
   .ofText "main" "index.js",
   textsMember "scripts" [("test", "node node_modules/mocha/bin/mocha --recursive")],
   textsMember "engines" [("node", ">=4.3.2"), ("npm", ">=2.14.12")],
   textsMember "dependencies" [("zapier-platform-core", version)],
   textsMember "devDependencies" [("mocha", "^3.2.0"), ("should", "^11.2.0")]]

/-- The value of a manifest. -/
def manifestValue (name description version : Text) : Value :=
  .map (Value.ofEntries ((manifestMembers name description version).map Member.entry))

/-- The text of a manifest. -/
def manifestText (name description version : Text) : Text :=
  mappingText outerGap "\n" (manifestMembers name description version) ++ "\n"

/-! ## The nodes -/

/-- What stands behind a member, in front of the next one. -/
def outerComma : Text := (",": Text) ++ outerGap

/-- The text in front of the name. -/
def beforeName : Text := ("\x7b" : Text) ++ outerGap ++ stringText "name" ++ (": " : Text) ++ ['"'.toNat]

/-- The text between name and description. -/
def beforeDescription : Text :=
  ['"'.toNat] ++ outerComma ++ (Member.ofText "version" "1.0.0").line ++ outerComma
    ++ stringText "description" ++ (": " : Text) ++ ['"'.toNat]

/-- The text between description and version. -/
def beforeVersion : Text :=
  ['"'.toNat] ++ outerComma ++ (Member.ofText "main" "index.js").line ++ outerComma
    ++ (textsMember "scripts" [("test", "node node_modules/mocha/bin/mocha --recursive")]).line ++ outerComma
    ++ (textsMember "engines" [("node", ">=4.3.2"), ("npm", ">=2.14.12")]).line ++ outerComma
    ++ stringText "dependencies" ++ (": " : Text) ++ ("\x7b" : Text) ++ innerGap
    ++ stringText "zapier-platform-core" ++ (": " : Text) ++ ['"'.toNat]

/-- The text behind the version. -/
def behindVersion : Text :=
  ['"'.toNat] ++ outerGap ++ ("\x7d" : Text) ++ outerComma
    ++ (textsMember "devDependencies" [("mocha", "^3.2.0"), ("should", "^11.2.0")]).line ++ "\n" ++ "\x7d" ++ "\n"

/-- The parts of the template. -/
def manifestPieces : List Piece :=
  [.text beforeName, .output [.name "name"], .text beforeDescription, .output [.name "description"],
   .text beforeVersion, .output [.name "platform_core_version"], .text behindVersion]

/-- The nodes of the template. -/
def manifestNodes : List Node :=
  [.text beforeName, .output (.name "name"), .text beforeDescription, .output (.name "description"),
   .text beforeVersion, .output (.name "platform_core_version"), .text behindVersion]

theorem pieces_manifest : pieces (Utf8.universalLines manifestSource) = .ok manifestPieces := by
  apply eq_ok_of_toOption
  simp (disch := exact rfl) only [manifestSource, linesText, Text.ofString_eq]
  decide +kernel

theorem read_manifest : read (Utf8.universalLines manifestSource) = .ok manifestNodes := by
  unfold read
  rw [pieces_manifest]
  rfl

/-! ## The text of a manifest -/

theorem manifestText_eq (name description version : Text) :
    manifestText name description version =
      beforeName ++ (name ++ (beforeDescription ++ (description ++
        (beforeVersion ++ (version ++ behindVersion))))) := by
  simp only [manifestText, mappingText, manifestMembers, textsMember, Member.line, Member.ofText, List.map_cons,
    List.map_nil, Text.join_cons_cons, Text.join_singleton, beforeName, beforeDescription, beforeVersion,
    behindVersion, outerComma, stringText, List.append_assoc]

/-- **The text of a manifest** whose version is a text. -/
theorem render_manifest {m : Generate.Manifest} {version : Text} (hversion : m.platformVersion = .str version) :
    render manifestNodes m.bindings = .ok (manifestText m.name m.description version) := by
  have hname : List.lookup ("name" : Text) m.bindings = some (Value.str m.name) := rfl
  have hdescription : List.lookup ("description" : Text) m.bindings = some (Value.str m.description) := rfl
  have hplatform : List.lookup ("platform_core_version" : Text) m.bindings = some (Value.str version) :=
    congrArg some hversion
  have hnodes := renderNodes_text beforeName <| renderNodes_name hname <| renderNodes_text beforeDescription <|
    renderNodes_name hdescription <| renderNodes_text beforeVersion <| renderNodes_name hplatform <|
    renderNodes_text behindVersion <| renderNodes_nil m.bindings
  rw [render, manifestNodes, hnodes, manifestText_eq, List.append_nil]
  rfl

/-! ## Plain texts are read back -/

section

variable {name description version : Text}

theorem readable_ofText {name t : Text} (hname : Plain name) (h : Plain t) : (Member.ofText name t).Readable 4 :=
  ⟨hname, (reads_stringText h).mono (by decide)⟩

theorem outerGap_space : ∀ c ∈ outerGap, Reader.isSpace c = true := by decide

theorem innerGap_space : ∀ c ∈ innerGap, Reader.isSpace c = true := by decide

theorem lineEnd_space : ∀ c ∈ ("\n" : Text), Reader.isSpace c = true := by decide

theorem readable_textsMember {name : Text} {entries : List (Text × Text)} (hname : Plain name)
    (hne : entries ≠ []) (hlen : entries.length ≤ 2) (h : ∀ e ∈ entries, Plain e.1 ∧ Plain e.2) :
    (textsMember name entries).Readable 4 := by
  have hentries : ∀ m ∈ entries.map fun e => Member.ofText e.1 e.2, m.Readable 1 := by
    intro m hm
    obtain ⟨e, he, rfl⟩ := List.mem_map.1 hm
    exact ⟨(h e he).1, reads_stringText (h e he).2⟩
  refine ⟨hname, (reads_mapping innerGap_space outerGap_space (by simpa using hne) hentries).mono ?_⟩
  rw [List.length_map]
  omega

theorem readable_manifestMembers (hname : Plain name) (hdescription : Plain description)
    (hversion : Plain version) : ∀ m ∈ manifestMembers name description version, m.Readable 4 := by
  have htexts : ∀ {name : Text} {entries : List (Text × Text)}, Plain name ∧ entries ≠ [] ∧ entries.length ≤ 2 →
      (∀ e ∈ entries, Plain e.1 ∧ Plain e.2) → (textsMember name entries).Readable 4 :=
    fun h => readable_textsMember h.1 h.2.1 h.2.2
  unfold manifestMembers
  simp only [List.forall_mem_cons]
  refine ⟨readable_ofText (by decide) hname, readable_ofText (by decide) (by decide),
    readable_ofText (by decide) hdescription, readable_ofText (by decide) (by decide),
    htexts (by decide) (by decide), htexts (by decide) (by decide), htexts ⟨by decide, by simp, by simp⟩ ?_,
    htexts (by decide) (by decide), List.forall_mem_nil _⟩
  have hcore : Plain ("zapier-platform-core" : Text) := by decide
  exact List.forall_mem_singleton.2 ⟨hcore, hversion⟩

/-- **A manifest of plain texts is read back.** -/
theorem read_manifestText (hname : Plain name) (hdescription : Plain description) (hversion : Plain version) :
    Json.read (manifestText name description version) = .ok (manifestValue name description version) := by
  have hreads := reads_mapping outerGap_space lineEnd_space (List.cons_ne_nil _ _)
    (readable_manifestMembers hname hdescription hversion)
  refine read_of_reads hreads ?_ (fun hmark => nomatch hmark) lineEnd_space
  -- The text is longer than the fuel that is needed, by what stands in front of the description alone.
  have hlen := congrArg List.length (manifestText_eq name description version)
  have hbefore : beforeDescription.length = 43 := by decide
  have hend : ("\n" : Text).length = 1 := rfl
  rw [manifestText] at hlen
  simp only [List.length_append, hbefore, hend] at hlen
  show 13 ≤ _
  omega

/-- The names of the members. -/
def manifestNames : List Text :=
  ["name", "version", "description", "main", "scripts", "engines", "dependencies", "devDependencies"]

theorem nodup_manifestMembers : ((manifestMembers name description version).map Member.name).Nodup := by
  show manifestNames.Nodup
  decide

theorem member_description :
    (manifestValue name description version).member? "description" = some (.str description) :=
  member?_mapping nodup_manifestMembers (m := .ofText "description" description) (by simp [manifestMembers])

theorem member_name : (manifestValue name description version).member? "name" = some (.str name) :=
  member?_mapping nodup_manifestMembers (m := .ofText "name" name) (by simp [manifestMembers])

theorem member_dependencies : ∃ deps, (manifestValue name description version).member? "dependencies" = some deps ∧
    deps.member? "zapier-platform-core" = some (.str version) := by
  refine ⟨_, member?_mapping nodup_manifestMembers
    (m := textsMember "dependencies" [("zapier-platform-core", version)]) (by simp [manifestMembers]), ?_⟩
  exact member?_mapping (by simp) (m := .ofText "zapier-platform-core" version)
    (List.mem_singleton_self _)

/-! ## A description that is read back is plain -/

/-- What stands around the description: a blank and a quote in front, a comma and a line end behind, and no
backslash anywhere. -/
theorem around_description (hname : Plain name) (hversion : Plain version) : ∃ pre suf,
    manifestText name description version =
      pre ++ [32, '"'.toNat] ++ description ++ (['"'.toNat, ','.toNat, 10] ++ suf) ∧
    '\\'.toNat ∉ pre ∧ '\\'.toNat ∉ suf := by
  have hfixed : ∀ t ∈ [beforeName, beforeDescription, beforeVersion, behindVersion], '\\'.toNat ∉ t := by
    decide +kernel
  have hfree : ∀ {t : Text}, Plain t → '\\'.toNat ∉ t := fun ht hmem => (ht _ hmem).2.1 rfl
  have hfront : beforeDescription.take 41 ++ [32, '"'.toNat] = beforeDescription := by decide +kernel
  have hbehind : ['"'.toNat, ','.toNat, 10] ++ beforeVersion.drop 3 = beforeVersion := by decide +kernel
  refine ⟨beforeName ++ (name ++ beforeDescription.take 41), beforeVersion.drop 3 ++ (version ++ behindVersion),
    ?_, ?_, ?_⟩
  · rw [manifestText_eq]
    nth_rewrite 1 [← hfront, ← hbehind]
    simp only [List.append_assoc]
  · simp only [List.mem_append, not_or]
    exact ⟨hfixed _ (by simp), hfree hname, fun hmem => hfixed _ (by simp) (List.mem_of_mem_take hmem)⟩
  · simp only [List.mem_append, not_or]
    exact ⟨fun hmem => hfixed _ (by simp) (List.mem_of_mem_drop hmem), hfree hversion, hfixed _ (by simp)⟩

/-- **A description that is read back is plain**, if name and version are. -/
theorem plain_of_read_manifestText (hname : Plain name) (hversion : Plain version) {v : Value}
    (hread : Json.read (manifestText name description version) = .ok v)
    (hmember : v.member? "description" = some (.str description)) : Plain description := by
  obtain ⟨front, raw, behind, htext, hspells⟩ := Reader.spelled_of_member? hread hmember
  obtain ⟨pre, suf, haround, hpre, hsuf⟩ := around_description hname hversion
  exact plain_of_spelled hspells htext hpre hsuf haround

end

end StepForge.Template
