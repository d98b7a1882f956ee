import StepForge.Generate.Step
import StepForge.Proofs.Generate.ObjectText

/-!
# `StepForge.Proofs.Generate.Fields` — the fields of a step are read back

The texts of a definition stand between quotes as they are. As long as none of them holds a quote, a
backslash or a line end, the fields of a module say exactly what the definition said: one object for each
field, with its properties in order. Commas, braces and colons in the texts do no harm.

## Contents
- `mapM_eq_ok` — a result for each element is the result for all.
- `fieldObject`, `fieldLiteral_eq` — what a field says, and that its literal is this object laid out in lines.
- `FieldReadable`, `stepModule_fields_read` — fields that can be read back, and that they are.
-/

namespace StepForge

/-- The text in a script of a value that has one. -/
theorem Value.quotedInScript_of_fits {v : Value} (h : v.scriptFault? = none) :
    v.quotedInScript = .ok (Generate.Literal.text v.scriptText).written := by
  rw [Value.quotedInScript, h]
  rfl

namespace Generate

theorem mapM_eq_ok {ε α β : Type} {f : α → Except ε β} {g : α → β} {xs : List α} (h : ∀ x ∈ xs, f x = .ok (g x)) :
    xs.mapM f = .ok (xs.map g) := by
  induction xs with
  | nil => rfl
  | cons x xs ih =>
      rw [List.mapM_cons, h x (by simp), ih fun y hy => h y (List.mem_cons_of_mem x hy)]
      rfl

/-! ## What a field says -/

/-- The properties of a field with the help text it shows. -/
def fieldObject (f : Field) (help : Text) : Properties :=
  let given : Properties :=
    [("key", .text f.key), ("label", .text f.label.scriptText), ("helpText", .text help),
      ("type", .text (fieldType f.type)), ("required", .truth f.required)]
  let placeholder : Properties :=
    if f.placeholder.isTruthy then [("placeholder", .text f.placeholder.scriptText)] else []
  given ++ placeholder

/-- A field that can be read back, with its help text: its texts can be written, and each of them can stand
between quotes as it is. -/
structure FieldReadable (least : Value) (f : Field) (help : Text) : Prop where
  key : Quotable f.key
  label_fits : f.label.scriptFault? = none
  label : Quotable f.label.scriptText
  padded : paddedHelp least f.helpText = .ok help
  help : Quotable help
  placeholder_fits : f.placeholder.isTruthy = true → f.placeholder.scriptFault? = none
  placeholder : f.placeholder.isTruthy = true → Quotable f.placeholder.scriptText

/-- The words for types can stand between quotes. -/
theorem quotable_fieldType (type : Value) : Quotable (fieldType type) := by
  have hstring : Quotable ("string" : Text) := by decide
  have hall : ∀ e ∈ fieldTypes, Quotable e.2 := by decide
  cases type with
  | str word =>
      cases hword : fieldTypeOf? (Text.lower word) with
      | none =>
          rw [fieldType, hword]
          exact hstring
      | some t =>
          obtain ⟨before, after, hsplit, -⟩ := List.lookup_eq_some_iff.1 hword
          rw [fieldType, hword]
          exact hall (Text.lower word, t) (by rw [hsplit]; simp)
  | _ => exact hstring

/-- A literal is the object of its field laid out in lines. -/
theorem fieldLiteral_eq {least : Value} {f : Field} {help : Text} (h : FieldReadable least f help) :
    fieldLiteral least (.str f.key) f = .ok (objectText (fieldObject f help)) := by
  have hkey := Value.quotedInScript_of_fits (show (Value.str f.key).scriptFault? = none from rfl)
  have hlabel := Value.quotedInScript_of_fits h.label_fits
  unfold fieldLiteral fieldProperties fieldObject
  rw [hkey, hlabel, h.padded]
  cases hplaceholder : f.placeholder.isTruthy with
  | false => cases f.required <;> rfl
  | true =>
      rw [Value.quotedInScript_of_fits (h.placeholder_fits hplaceholder)]
      cases f.required <;> rfl

theorem writableObject_fieldObject {least : Value} {f : Field} {help : Text} (h : FieldReadable least f help) :
    WritableObject (fieldObject f help) := by
  have htext : ∀ {name t : Text}, Naming.isIdentifier name = true → Quotable t → Writable (name, .text t) :=
    fun hname ht => ⟨hname, fun _ hu => Literal.text.inj hu ▸ ht⟩
  have hrequired : Writable ("required", .truth f.required) :=
    ⟨show Naming.isIdentifier "required" = true by decide, fun _ ht => nomatch ht⟩
  have hkey : Writable ("key", .text f.key) := htext (by decide) h.key
  have hlabel : Writable ("label", .text f.label.scriptText) := htext (by decide) h.label
  have hhelp : Writable ("helpText", .text help) := htext (by decide) h.help
  have htype : Writable ("type", .text (fieldType f.type)) := htext (by decide) (quotable_fieldType f.type)
  cases hplaceholder : f.placeholder.isTruthy with
  | false => simp [WritableObject, fieldObject, hplaceholder, hkey, hlabel, hhelp, htype, hrequired]
  | true =>
      have hlast : Writable ("placeholder", .text f.placeholder.scriptText) :=
        htext (by decide) (h.placeholder hplaceholder)
      simp [WritableObject, fieldObject, hplaceholder, hkey, hlabel, hhelp, htype, hrequired, hlast]

/-! ## The fields of a module -/

/-- **The fields of a step are read back**: reading what its module says of them succeeds, and gives exactly one
object for each field, in order, whose properties are those of the field. Nothing but the sample can keep the
module from being made. -/
theorem stepModule_fields_read (least : Value) (key : Text) (s : Step) (help : Field → Text)
    (h : ∀ f ∈ s.fields, FieldReadable least f (help f)) :
    ∃ fields, readObjects fields = some (s.fields.map fun f => fieldObject f (help f))
      ∧ stepModule least (.str key) s = (moduleSample s.samples).map fun sample =>
          { key := Naming.snakeCase key
            camel := Naming.camelCase key
            noun := Naming.capitalize key
            lowerNoun := Text.lower key
            fields := fields
            sample := sample } := by
  have hfields := mapM_eq_ok fun f hf => fieldLiteral_eq (h f hf)
  refine ⟨Text.join ",\n" ((s.fields.map fun f => fieldObject f (help f)).map objectText), readObjects_join ?_, ?_⟩
  · rintro o ho
    obtain ⟨f, hf, rfl⟩ := List.mem_map.1 ho
    exact writableObject_fieldObject (h f hf)
  · rw [stepModule, hfields, List.map_map]
    cases moduleSample s.samples <;> rfl

/-- A step with texts that look like more properties, or like the end of an object. -/
def crowdedStep : Step where
  key := "crowded"
  fields :=
    [{ key := "a", type := .str "Boolean", label := .str "One, two: \x7bthree\x7d",
       helpText := .str "type: text, required: true", required := false,
       placeholder := .str "b, label: c \x7d,\x7b" },
     { key := "1st", type := .null, label := .null, helpText := .str "short", required := true,
       placeholder := .str "" }]
  samples := []

/-- The help texts of these fields as they are shown. -/
def crowdedHelp (f : Field) : Text :=
  if f.required then "short (help text must be at least 10 characters)" else "type: text, required: true"

/-- What its module says of them. -/
def crowdedObjects : List Properties :=
  [[("key", .text "a"), ("label", .text "One, two: \x7bthree\x7d"),
    ("helpText", .text "type: text, required: true"), ("type", .text "boolean"), ("required", .truth false),
    ("placeholder", .text "b, label: c \x7d,\x7b")],
   [("key", .text "1st"), ("label", .text "undefined"),
    ("helpText", .text "short (help text must be at least 10 characters)"), ("type", .text "string"),
    ("required", .truth true)]]

theorem crowdedStep_fields_read :
    (∀ f ∈ crowdedStep.fields, FieldReadable defaultLeast f (crowdedHelp f))
      ∧ ∃ fields, readObjects fields = some crowdedObjects
        ∧ ∃ m, stepModule defaultLeast (.str "crowded") crowdedStep = .ok m ∧ m.fields = fields := by
  have hfields : ∀ f ∈ crowdedStep.fields, FieldReadable defaultLeast f (crowdedHelp f) := by
    refine List.forall_mem_cons.2 ⟨?_, List.forall_mem_singleton.2 ?_⟩
    · exact ⟨by decide, rfl, by decide, rfl, by decide, fun _ => rfl, fun _ => by decide⟩
    · exact ⟨by decide, rfl, by decide, rfl, by decide, fun _ => rfl, fun _ => by decide⟩
  obtain ⟨fields, hread, hmodule⟩ := stepModule_fields_read defaultLeast "crowded" crowdedStep crowdedHelp hfields
  have hobjects : crowdedStep.fields.map (fun f => fieldObject f (crowdedHelp f)) = crowdedObjects := by
    decide +kernel
  rw [hobjects] at hread
  exact ⟨hfields, fields, hread, _, hmodule, rfl⟩

end Generate
end StepForge
