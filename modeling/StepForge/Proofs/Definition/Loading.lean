import StepForge.Definition.Source
import StepForge.Proofs.Json.Meeting
import StepForge.Proofs.Text.Literal
import StepForge.Proofs.Tree.Looking
import StepForge.Proofs.Yaml.Reading

/-!
# `StepForge.Proofs.Definition.Loading` — how the loading of a definition ends

A definition that cannot be read is said to be so with its path: if there is no file, if its bytes are no text, if
the text is malformed, or if its top is no mapping. What the reader of a format refuses for another reason passes
by, such as an integer with too many digits or a date that does not exist, and so does a path that has no bytes.
Nothing is asked of the reader of YAML.

## Contents
- `Format.Reads`, `Format.Refuses` — what the reader of a format makes of a text.
- `parseValue_cases`, `parse_cases` — the value of a text, and its mapping.
- `Gives`, `Escapes`, `load_cases` — how loading ends.
- `definition_loading_ends` — all of it, for every path and whatever stands there.
- `not_escapes_of_sound` — YAML texts of which nothing escapes, as `Yaml.read` reads them.
-/

namespace StepForge.Definition

variable {yaml : Text → Except StreamFault Value} {t : Tree} {p : Path} {text : Text}

/-! ## The reader of a format -/

/-- A text is read as a value. -/
def Format.Reads (yaml : Text → Except StreamFault Value) : Format → Text → Value → Prop
  | .json, text, v => Json.read text = .ok v
  | .yaml, text, v => yaml text = .ok v

/-- A text is refused for another reason than that it is malformed: for an integer with too many digits, or for
whatever else the reader of YAML fails with. -/
def Format.Refuses (yaml : Text → Except StreamFault Value) : Format → Text → Fault → Prop
  | .json, text, f => ∃ n, f = .json (.longNumeral n) ∧ Json.MeetsLong n text
  | .yaml, text, f => yaml text = .error (.other f) ∨ ∃ g, yaml text = .error (.undecodable g) ∧ f = .decoding g

/-- The value of a text is what the reader of the format makes of it, and a fault is reported with the path unless the
text is refused for another reason than that it is malformed. -/
theorem parseValue_cases (yaml : Text → Except StreamFault Value) (p : Path) (text : Text) :
    (∃ v, parseValue yaml p text = .ok v ∧ (formatOf p).Reads yaml text v) ∨
      (∃ details, parseValue yaml p text = .error (.definition p.text details)) ∨
      ∃ f, parseValue yaml p text = .error f ∧ (formatOf p).Refuses yaml text f := by
  unfold parseValue
  cases formatOf p with
  | yaml =>
      cases hread : yaml text with
      | ok v => exact Or.inl ⟨v, by simp only, hread⟩
      | error g =>
          cases g with
          | malformed message => exact Or.inr (Or.inl ⟨_, rfl⟩)
          | undecodable f => exact Or.inr (Or.inr ⟨.decoding f, rfl, Or.inr ⟨f, hread, rfl⟩⟩)
          | other f => exact Or.inr (Or.inr ⟨f, rfl, Or.inl hread⟩)
  | json =>
      cases hread : Json.read text with
      | ok v => exact Or.inl ⟨v, by simp only, hread⟩
      | error g =>
          rcases Json.read_error_cases hread with ⟨reason, line, column, position, rfl⟩ | ⟨n, rfl, hlong⟩
          · exact Or.inr (Or.inl ⟨_, rfl⟩)
          · exact Or.inr (Or.inr ⟨.json (.longNumeral n), rfl, n, rfl, hlong⟩)

theorem parseValue_of_reads {v : Value} (h : (formatOf p).Reads yaml text v) : parseValue yaml p text = .ok v := by
  unfold parseValue
  cases hformat : formatOf p with
  | yaml =>
      rw [hformat] at h
      simp only [show yaml text = .ok v from h]
  | json =>
      rw [hformat] at h
      simp only [show Json.read text = .ok v from h]

theorem parseValue_of_refuses {f : Fault} (h : (formatOf p).Refuses yaml text f) :
    parseValue yaml p text = .error f := by
  unfold parseValue
  cases hformat : formatOf p with
  | yaml =>
      rw [hformat] at h
      rcases h with hread | ⟨g, hread, rfl⟩
      · simp only [hread]
      · simp only [hread]
  | json =>
      rw [hformat] at h
      obtain ⟨n, rfl, hlong⟩ := h
      simp only [Json.read_long_iff.2 hlong]

/-! ## The mapping of a text -/

theorem parse_eq_ok_iff {v : Value} :
    parse yaml p text = .ok v ↔ parseValue yaml p text = .ok v ∧ ∃ entries, v.unfolded = .map entries := by
  unfold parse
  rw [bind_eq_ok_iff]
  constructor
  · rintro ⟨found, hvalue, h⟩
    split at h
    · next entries hmap =>
        cases h
        exact ⟨hvalue, entries, hmap⟩
    · cases h
  · rintro ⟨hvalue, entries, hmap⟩
    refine ⟨v, hvalue, ?_⟩
    rw [hmap]

theorem parse_of_refuses {f : Fault} (h : (formatOf p).Refuses yaml text f) : parse yaml p text = .error f :=
  bind_eq_error_iff.2 (Or.inl (parseValue_of_refuses h))

/-- A text has a mapping, or a fault is reported with the path, or the text is refused. -/
theorem parse_cases (yaml : Text → Except StreamFault Value) (p : Path) (text : Text) :
    (∃ v entries, parse yaml p text = .ok v ∧ (formatOf p).Reads yaml text v ∧ v.unfolded = .map entries) ∨
      (∃ details, parse yaml p text = .error (.definition p.text details)) ∨
      ∃ f, parse yaml p text = .error f ∧ (formatOf p).Refuses yaml text f := by
  rcases parseValue_cases yaml p text with ⟨v, hvalue, hreads⟩ | ⟨details, hvalue⟩ | ⟨f, -, hrefuses⟩
  · by_cases hmap : ∃ entries, v.unfolded = .map entries
    · obtain ⟨entries, hmap⟩ := hmap
      exact Or.inl ⟨v, entries, parse_eq_ok_iff.2 ⟨hvalue, entries, hmap⟩, hreads, hmap⟩
    · -- A value that is no mapping is named by its kind.
      refine Or.inr (Or.inl ⟨("expected a mapping at top level, got " : Text) ++ v.kind, ?_⟩)
      refine bind_eq_error_iff.2 (Or.inr ⟨v, hvalue, ?_⟩)
      split
      · next entries heq => exact absurd ⟨entries, heq⟩ hmap
      · rfl
  · exact Or.inr (Or.inl ⟨details, bind_eq_error_iff.2 (Or.inl hvalue)⟩)
  · exact Or.inr (Or.inr ⟨f, parse_of_refuses hrefuses, hrefuses⟩)

/-! ## Loading -/

/-- A file holds a text that is read as a mapping. -/
def Gives (yaml : Text → Except StreamFault Value) (t : Tree) (p : Path) (v : Value) : Prop :=
  ∃ text, t.HoldsText p text ∧ (formatOf p).Reads yaml text v ∧ ∃ entries, v.unfolded = .map entries

/-- A fault that leaves the loading of a definition without being reported as one of the definition: the path has no
bytes, or a file holds a text that is refused. -/
inductive Escapes (yaml : Text → Except StreamFault Value) (t : Tree) (p : Path) : Fault → Prop
  | path {g : Utf8.EncodeFault} (hcode : p.encodeFault? = some g) : Escapes yaml t p (.encoding g)
  | text {text : Text} {f : Fault} (htext : t.HoldsText p text) (hrefuses : (formatOf p).Refuses yaml text f) :
      Escapes yaml t p f

theorem load_of_holds (h : t.HoldsText p text) : loadWith yaml t p = parse yaml p text := by
  unfold loadWith readText
  rw [Tree.readText_eq_ok_iff.2 h]
  rfl

theorem load_of_gives {v : Value} (h : Gives yaml t p v) : loadWith yaml t p = .ok v := by
  obtain ⟨text, htext, hreads, hmap⟩ := h
  rw [load_of_holds htext, parse_eq_ok_iff]
  exact ⟨parseValue_of_reads hreads, hmap⟩

theorem load_of_escapes {f : Fault} (h : Escapes yaml t p f) : loadWith yaml t p = .error f := by
  cases h with
  | path hcode =>
      unfold loadWith readText
      rw [Tree.readText_of_uncoded hcode]
      rfl
  | text htext hrefuses => rw [load_of_holds htext, parse_of_refuses hrefuses]

/-- A fault that escapes is none of the library, unless the reader of YAML fails with one. -/
theorem Escapes.isOwn (hyaml : ∀ text f, yaml text = .error (.other f) → f.isOwn = false) {f : Fault}
    (h : Escapes yaml t p f) : f.isOwn = false := by
  cases h with
  | path hcode => rfl
  | text htext hrefuses =>
      cases hformat : formatOf p with
      | json =>
          rw [hformat] at hrefuses
          obtain ⟨n, rfl, -⟩ := hrefuses
          rfl
      | yaml =>
          rw [hformat] at hrefuses
          rcases hrefuses with hread | ⟨g, -, rfl⟩
          · exact hyaml _ _ hread
          · rfl

/-- **How the loading of a definition ends**: with a mapping, with a fault of the definition, or with one that
escapes. -/
theorem load_cases (yaml : Text → Except StreamFault Value) (t : Tree) (hnull : ∀ n ∈ p.names, 0 ∉ n) :
    (∃ v, loadWith yaml t p = .ok v ∧ Gives yaml t p v) ∨
      (∃ details, loadWith yaml t p = .error (.definition p.text details)) ∨
      ∃ f, loadWith yaml t p = .error f ∧ Escapes yaml t p f := by
  -- The file has a text, or the path has no bytes, or the system refuses it, or the bytes are no text.
  rcases Tree.readText_cases t p with ⟨text, htext⟩ | ⟨g, -, hcode⟩ | ⟨f, htext, hcode, hbytes⟩ | ⟨f, htext⟩
  · have hholds : t.HoldsText p text := Tree.readText_eq_ok_iff.1 htext
    rw [load_of_holds hholds]
    rcases parse_cases yaml p text with ⟨v, entries, hparse, hreads, hmap⟩ | hparse | ⟨f, hparse, hrefuses⟩
    · exact Or.inl ⟨v, hparse, text, hholds, hreads, entries, hmap⟩
    · exact Or.inr (Or.inl hparse)
    · exact Or.inr (Or.inr ⟨f, hparse, .text hholds hrefuses⟩)
  · exact Or.inr (Or.inr ⟨.encoding g, load_of_escapes (.path hcode), .path hcode⟩)
  · -- A failed operation is reported with its cause.
    obtain ⟨cause, rfl⟩ := Tree.readBytes_eq_error ⟨hcode, hnull⟩ hbytes
    refine Or.inr (Or.inl ⟨cause.words, ?_⟩)
    unfold loadWith readText
    rw [htext]
    rfl
  · refine Or.inr (Or.inl ⟨("not UTF-8 text: " : Text) ++ f.message, ?_⟩)
    unfold loadWith readText
    rw [htext]
    rfl

/-- **How the loading of a definition ends**, for every reader of YAML, every path without null characters and whatever
stands there: with a mapping, with a fault of the definition that names the path, or with a fault that escapes. A
mapping is given exactly if a file holds a text that is read as one. All that can escape does: that the path has no
bytes, that an integer in a JSON text has too many digits, and what the reader of YAML fails with if it does not say
that the text is malformed. It is no fault of the library unless the reader has one, and of a JSON text without such
integers nothing escapes. The recursion limit of an interpreter is left out for JSON, which can be nested to any depth
here; a reader of YAML may fail at it. -/
theorem definition_loading_ends (yaml : Text → Except StreamFault Value) (t : Tree) (p : Path)
    (hnull : ∀ n ∈ p.names, 0 ∉ n) :
    ((∃ v, loadWith yaml t p = .ok v ∧ Gives yaml t p v) ∨
        (∃ details, loadWith yaml t p = .error (.definition p.text details)) ∨
        ∃ f, loadWith yaml t p = .error f ∧ Escapes yaml t p f) ∧
      (∀ v, loadWith yaml t p = .ok v ↔ Gives yaml t p v) ∧
      (∀ f, Escapes yaml t p f → loadWith yaml t p = .error f) ∧
      ((∀ text f, yaml text = .error (.other f) → f.isOwn = false) → ∀ f, Escapes yaml t p f → f.isOwn = false) ∧
      (formatOf p = .json → ∀ text, t.HoldsText p text →
        (∀ n, Json.Reader.HasDigits n text → n ≤ Text.numeralLimit) → ∀ f, ¬ Escapes yaml t p f) := by
  refine ⟨load_cases yaml t hnull, fun v => ⟨fun hload => ?_, load_of_gives⟩, fun f hf => load_of_escapes hf,
    fun hyaml f hf => hf.isOwn hyaml, ?_⟩
  · rcases load_cases yaml t hnull with ⟨w, hw, hgives⟩ | ⟨details, hw⟩ | ⟨f, hw, -⟩
    · cases hload.symm.trans hw
      exact hgives
    · cases hload.symm.trans hw
    · rw [hload] at hw
      cases hw
  · intro hformat text hholds hdigits f hescapes
    cases hescapes with
    | path hcode =>
        rw [hholds.coded] at hcode
        cases hcode
    | text hother hrefuses =>
        cases hholds.unique hother
        rw [hformat] at hrefuses
        -- The integer that is met stands in the text, so it is no longer than all of them.
        obtain ⟨n, -, -, hmeets⟩ := hrefuses
        obtain ⟨hlimit, hlong⟩ := hmeets.hasDigits
        have hle := hdigits n (hlong.of_suffix (Json.Reader.skipSpace_suffix text))
        omega

/-- A definition with a date that does not exist. -/
def impossibleDate : Text := "a: 2020-02-30\n"

/-- The tree in which it stands. -/
def impossibleTree : Tree :=
  Tree.empty.place [] "app.yaml" (.file (impossibleDate.map UInt8.ofNat)) (by decide)

theorem read_impossibleDate : Yaml.read impossibleDate = .error (.value "day is out of range for month") := by
  apply eq_error_of_fault?
  simp (disch := exact rfl) only [impossibleDate, Text.ofString_eq]
  decide +kernel

theorem impossibleDate_escapes :
    (∀ n ∈ (Path.ofText "app.yaml").names, 0 ∉ n) ∧
      load impossibleTree (.ofText "app.yaml") = .error (.yaml (.value "day is out of range for month")) := by
  have hnull : ∀ n ∈ (Path.ofText "app.yaml").names, 0 ∉ n := by decide
  have hholds : impossibleTree.HoldsText (.ofText "app.yaml") impossibleDate :=
    ⟨_, impossibleDate, Tree.stat?_eq_some_iff.1 rfl, by decide, by decide⟩
  have hread : yamlValue impossibleDate = .error (.other (.yaml (.value "day is out of range for month"))) := by
    unfold yamlValue
    rw [read_impossibleDate]
    rfl
  have hescapes : Escapes yamlValue impossibleTree (.ofText "app.yaml")
      (.yaml (.value "day is out of range for month")) := by
    refine .text hholds ?_
    rw [show formatOf (.ofText "app.yaml") = .yaml by decide]
    exact Or.inl hread
  exact ⟨hnull, (definition_loading_ends yamlValue impossibleTree (.ofText "app.yaml") hnull).2.2.1 _ hescapes⟩

/-! ## Sound texts -/

/-- As `Yaml.read` reads them, nothing escapes of YAML texts in which nothing can be at fault but their structure. -/
theorem not_escapes_of_sound (hformat : formatOf p = .yaml) (hholds : t.HoldsText p text) (hsound : Yaml.Sound text)
    (f : Fault) : ¬ Escapes yamlValue t p f := by
  intro hescapes
  cases hescapes with
  | path hcode =>
      rw [hholds.coded] at hcode
      cases hcode
  | text hother hrefuses =>
      cases hholds.unique hother
      rw [hformat] at hrefuses
      rcases hread : Yaml.read text with g | v
      · obtain rfl := hsound.eq_malformed hread
        simp [Format.Refuses, yamlValue, hread, Except.mapError, StreamFault.ofYaml] at hrefuses
      · simp [Format.Refuses, yamlValue, hread, Except.mapError] at hrefuses

end StepForge.Definition
