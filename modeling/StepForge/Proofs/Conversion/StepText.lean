import StepForge.Proofs.Conversion.Rendering
import StepForge.Proofs.Template.Bundled
import StepForge.Proofs.Template.Step

/-!
# `StepForge.Proofs.Conversion.StepText` — what the module of a step says

The module of a step is put together once: the texts of its fields and of its sample stand between two texts
that are made of the key. None of them is expanded, escaped or trimmed, whatever it holds.

## Contents
- `InOrder`, `inOrder_join` — texts that occur one behind the other.
- `stepText` — the text of a module, put together out of its parts.
- `Artifact.render_eq_stepText`, `step_rendered_in_one_pass` — that this is what is rendered.
-/

namespace StepForge.Conversion

open Template

/-! ## Texts in order -/

/-- Texts that occur in a text as they are, one behind the other. -/
def InOrder : List Text → Text → Prop
  | [], _ => True
  | f :: fs, t => ∃ front back, t = front ++ f ++ back ∧ InOrder fs back

theorem InOrder.append_left {fs : List Text} {t : Text} (h : InOrder fs t) (front : Text) :
    InOrder fs (front ++ t) := by
  cases fs with
  | nil => trivial
  | cons f fs =>
      obtain ⟨first, back, rfl, hback⟩ := h
      exact ⟨front ++ first, back, by simp, hback⟩

/-- Texts that are joined occur in order, whatever stands around them. -/
theorem inOrder_join (sep : Text) (fs : List Text) (back : Text) : InOrder fs (Text.join sep fs ++ back) := by
  induction fs with
  | nil => trivial
  | cons f fs ih =>
      cases fs with
      | nil => exact ⟨[], back, by simp, trivial⟩
      | cons g gs =>
          refine ⟨[], sep ++ (Text.join sep (g :: gs) ++ back), ?_, ih.append_left sep⟩
          rw [Text.join_cons_cons]
          simp

/-! ## The text of a module -/

/-- The text of a step's module under a key: its fields one per entry and its sample, if it has one, between
texts that are made of the key. -/
def stepText (least : Value) (c : Category) (key : Text) (s : Step) : Except ValueFault Text := do
  let fragments ← s.fields.mapM fun f => Generate.fieldLiteral least (.str f.key) f
  let sample ← (if s.samples.isEmpty then .ok [] else (Generate.sampleBlock s.samples).map (· ++ (",\n" : Text)))
  .ok (stepFront c key ++ Text.join ",\n" fragments ++ fieldsEnd ++ sample ++ stepBack c key)

/-- The text of a module is there exactly if the texts of all its fields and of its sample are. -/
theorem stepText_eq_ok_iff {least : Value} {c : Category} {key : Text} {s : Step} {text : Text} :
    stepText least c key s = .ok text ↔
      ∃ fragments sample,
        s.fields.mapM (fun f => Generate.fieldLiteral least (.str f.key) f) = .ok fragments ∧
        Generate.moduleSample s.samples = .ok sample ∧
        text = stepFront c key ++ Text.join ",\n" fragments ++ fieldsEnd ++ sample ++ stepBack c key := by
  unfold stepText
  cases s.fields.mapM fun f => Generate.fieldLiteral least (.str f.key) f with
  | error fault => simp [bind, Except.bind]
  | ok fragments =>
      show (Generate.moduleSample s.samples >>= _) = _ ↔ _
      cases Generate.moduleSample s.samples with
      | error fault => simp [bind, Except.bind]
      | ok sample => simp [bind, Except.bind, eq_comm]

/-- The template of a category is a bundled one. -/
theorem stepSource_mem (c : Category) : (stepTemplate c.name, stepSource c) ∈ bundled := by
  cases c with
  | trigger =>
      have hname : stepTemplate Category.trigger.name = ("trigger.js.j2" : Text) := by decide
      simp [hname, stepSource, bundled]
  | search =>
      have hname : stepTemplate Category.search.name = ("search.js.j2" : Text) := by decide
      simp [hname, stepSource, bundled]
  | write =>
      have hname : stepTemplate Category.write.name = ("write.js.j2" : Text) := by decide
      simp [hname, stepSource, bundled]

/-- The text of a module around what its template is filled with. -/
theorem stepText_eq_map (least : Value) (c : Category) (key : Text) (s : Step) :
    stepText least c key s = (Generate.stepModule least (.str key) s).map fun m =>
      stepFront c key ++ m.fields ++ fieldsEnd ++ m.sample ++ stepBack c key := by
  unfold stepText Generate.stepModule
  cases s.fields.mapM fun f => Generate.fieldLiteral least (.str f.key) f with
  | error fault => rfl
  | ok fragments =>
      show (Generate.moduleSample s.samples >>= _) = Except.map _ (Generate.moduleSample s.samples >>= _)
      cases Generate.moduleSample s.samples with
      | error fault => rfl
      | ok sample => rfl

/-- The names that a template is filled with are made of the key. -/
theorem madeOf_stepModule {least : Value} {key : Text} {s : Step} {m : Generate.StepModule}
    (h : Generate.stepModule least (.str key) s = .ok m) : MadeOf m key := by
  unfold Generate.stepModule at h
  cases hfields : s.fields.mapM fun f => Generate.fieldLiteral least (.str f.key) f with
  | error fault =>
      rw [hfields] at h
      cases h
  | ok fragments =>
      cases hsample : Generate.moduleSample s.samples with
      | error fault =>
          rw [hfields, hsample] at h
          cases h
      | ok sample =>
          rw [hfields, hsample] at h
          cases h
          exact ⟨rfl, rfl, rfl, rfl⟩

/-- The module of a step is its text, for every library that has the bundled templates. -/
theorem Artifact.render_eq_stepText {l : Library} (h : l.Honest) (t : Tree) (app : App) (settings : Settings)
    (c : Category) (key : Text) (s : Step) :
    ((Artifact.step c key s).render app settings t l).1 = (stepText settings.leastHelp c key s).mapError .value := by
  have hgives : l.Gives t (stepTemplate c.name) (stepNodes c) :=
    (h.gives_iff (u := t) (Artifact.step c key s).template_relative).2
      (standard_gives (stepSource_mem c) (read_step c) t)
  have hbindings : (Artifact.step c key s).bindings app settings =
      (Generate.stepModule settings.leastHelp (.str key) s).map Generate.StepModule.bindings := rfl
  rw [stepText_eq_map]
  cases hm : Generate.stepModule settings.leastHelp (.str key) s with
  | error fault =>
      unfold Artifact.render
      rw [hbindings, hm]
      rfl
  | ok m =>
      rw [hm] at hbindings
      exact Artifact.render_eq_ok_iff.2 ⟨_, _, hbindings, hgives, render_step (madeOf_stepModule hm) c⟩

/-- **The module of a step is put together once.** It is the text of the fields one per entry and of the sample,
between two texts that are made of the category and the key, and fails only where one of these texts does. So the
text of every field occurs in it as it is, in the order of the fields, and the module ends behind a brace with one
line feed. -/
theorem step_rendered_in_one_pass {l : Library} (h : l.Honest) (t : Tree) (app : App) (settings : Settings)
    (c : Category) (key : Text) (s : Step) :
    ((Artifact.step c key s).render app settings t l).1 =
        (stepText settings.leastHelp c key s).mapError .value ∧
      ∀ text, ((Artifact.step c key s).render app settings t l).1 = .ok text →
        ∃ fragments,
          s.fields.mapM (fun f => Generate.fieldLiteral settings.leastHelp (.str f.key) f) = .ok fragments ∧
          InOrder fragments text ∧ ∃ body, text = body ++ "\x7d;\n" := by
  have hrender := Artifact.render_eq_stepText h t app settings c key s
  refine ⟨hrender, ?_⟩
  intro text htext
  rw [hrender, mapError_eq_ok_iff] at htext
  obtain ⟨fragments, sample, hfields, hsample, rfl⟩ := stepText_eq_ok_iff.1 htext
  refine ⟨fragments, hfields, ?_, ?_⟩
  · have hjoin := inOrder_join ",\n" fragments (fieldsEnd ++ sample ++ stepBack c key)
    simpa using hjoin.append_left (stepFront c key)
  · obtain ⟨body, hbody⟩ := stepEnd_suffix c key
    have hend : stepEnd = linesText ["", "  \x7d"] ++ "\x7d;\n" := by decide
    rw [← hbody, hend]
    exact ⟨_, by rw [← List.append_assoc, ← List.append_assoc]⟩

/-- A step whose texts look like templates, with mark-up, a carriage return and blanks around them. -/
def templateLike : Step where
  key := "\x7b\x7b key \x7d\x7d"
  fields :=
    [{ key := "\x7b\x7b key \x7d\x7d", type := .str "unicode", label := .str " \x7b% raw %\x7d <b>&amp;</b>\r\n ",
       helpText := .str "  \x7b# none #\x7d  ", required := true, placeholder := .null }]
  samples := [{ key := " \x7b\x7b sample \x7d\x7d ", type := .str "integer", label := .str "\x7b% if %\x7d" }]

/-- The text of its field. -/
def templateLikeFragment : Text :=
  linesText ["      \x7b", "        key: '\x7b\x7b key \x7d\x7d',",
      "        label: ' \x7b% raw %\x7d <b>&amp;</b>\r", " ',", "        helpText: '  \x7b# none #\x7d  ',",
      "        type: 'string',", "        required: true"]
    ++ "      \x7d"

theorem templateLike_rendered_in_one_pass :
    Library.standard.Honest ∧ ∃ text,
      ((Artifact.step .trigger "\x7b\x7b noun \x7d\x7d" templateLike).render default default Tree.empty
        Library.standard).1 = .ok text ∧
      InOrder [templateLikeFragment] text ∧ ∃ body, text = body ++ "\x7d;\n" := by
  have hleast : (default : Settings).leastHelp = .int 10 := rfl
  have hparts : (templateLike.fields.mapM fun f =>
      Generate.fieldLiteral (default : Settings).leastHelp (.str f.key) f) = .ok [templateLikeFragment] := by
    rw [hleast]
    apply eq_ok_of_toOption
    simp (disch := exact rfl) only [templateLike, templateLikeFragment, linesText, Text.ofString_eq]
    decide +kernel
  have hsample : ∃ sample, Generate.moduleSample templateLike.samples = .ok sample := ⟨_, rfl⟩
  obtain ⟨sample, hsample⟩ := hsample
  obtain ⟨hrender, hall⟩ := step_rendered_in_one_pass Library.honest_standard Tree.empty default default .trigger
    "\x7b\x7b noun \x7d\x7d" templateLike
  rw [stepText_eq_ok_iff.2 ⟨_, sample, hparts, hsample, rfl⟩] at hrender
  obtain ⟨fragments, hfragments, horder, hend⟩ := hall _ hrender
  cases hparts.symm.trans hfragments
  exact ⟨Library.honest_standard, _, hrender, horder, hend⟩

end StepForge.Conversion
