import StepForge.Generate.Step
import StepForge.Proofs.Template.Index

/-!
# `StepForge.Proofs.Template.Step` — the templates of steps

The three templates of steps are one template with different words. Fixed texts and texts that are made of
the key stand around two places: one for the fields and one for the sample. What is put there is not looked
at again.

## Contents
- `sliceOf_eq` — slices without a step.
- `KeyPart`, `Segment` — what stands in a template besides the two places.
- `frontSegments`, `backSegments`, `read_step` — the three templates.
- `renderNodes_segment`, `renderNodes_segments` — segments one after another.
- `stepFront`, `stepBack`, `render_step` — the text of a step's module.
-/

namespace StepForge.Template

/-! ## Slices -/

/-- The positions of a slice whose step is one are in a row. -/
theorem slicePositions_one {fuel a b : Nat} (h : b - a ≤ fuel) :
    slicePositions fuel a b 1 = List.range' a (b - a) := by
  induction fuel generalizing a with
  | zero =>
      have hnone : b - a = 0 := by omega
      rw [hnone]
      rfl
  | succ fuel ih =>
      rw [slicePositions]
      by_cases hlt : a < b
      · have hsize : b - a = (b - (a + 1)) + 1 := by omega
        have hnext := ih (a := a + 1) (by omega)
        rw [hsize, List.range'_succ, ← hnext]
        simp [hlt]
      · have hnone : b - a = 0 := by omega
        rw [hnone]
        simp [hlt]

/-- Items at positions in a row. -/
theorem filterMap_range' {α : Type} (xs : List α) (a n : Nat) :
    (List.range' a n).filterMap (fun i => xs[i]?) = (xs.drop a).take n := by
  induction n generalizing a with
  | zero => simp
  | succ n ih =>
      rw [List.range'_succ, List.filterMap_cons, ih]
      by_cases ha : a < xs.length
      · rw [List.getElem?_eq_getElem ha, List.drop_eq_getElem_cons ha, List.take_succ_cons]
      · rw [List.getElem?_eq_none (by omega), List.drop_eq_nil_of_le (by omega),
          List.drop_eq_nil_of_le (by omega)]
        simp

theorem clampBound_natCast (size n : Nat) : clampBound size 0 size n = (min n size : Nat) := by
  simp only [clampBound]
  omega

/-- **A slice without a step** is what is left of a front when a part of it is dropped. -/
theorem sliceOf_eq {α : Type} (xs : List α) (start stop : Option Nat) :
    sliceOf xs (start.map Int.ofNat) (stop.map Int.ofNat) none =
      (xs.take (stop.getD xs.length)).drop (start.getD 0) := by
  have hstart : ((start.map Int.ofNat).map (clampBound xs.length 0 xs.length)).getD 0 =
      ((min (start.getD 0) xs.length : Nat) : Int) := by
    cases start with
    | none => simp
    | some a => exact clampBound_natCast xs.length a
  have hstop : ((stop.map Int.ofNat).map (clampBound xs.length 0 xs.length)).getD xs.length =
      ((min (stop.getD xs.length) xs.length : Nat) : Int) := by
    cases stop with
    | none => simp
    | some b => exact clampBound_natCast xs.length b
  unfold sliceOf
  simp only [Option.getD_none, Int.one_pos, if_true, hstart, hstop]
  rw [slicePositions_one (by omega), filterMap_range', List.drop_take]
  apply List.ext_getElem?
  intro i
  simp only [List.getElem?_take, List.getElem?_drop]
  grind

theorem slice_initial (t : Text) : slice (.str t) none (some (.int 1)) none = .value (.str (t.take 1)) :=
  congrArg (fun s => Operand.value (.str s)) (sliceOf_eq t none (some 1))

theorem slice_tail (t : Text) : slice (.str t) (some (.int 1)) none none = .value (.str (t.drop 1)) := by
  have h := sliceOf_eq t (some 1) none
  rw [Option.getD_none, Option.getD_some, List.take_length] at h
  exact congrArg (fun s => Operand.value (.str s)) h

/-! ## Segments -/

/-- What stands in the templates of steps and is made of the key. -/
inductive KeyPart where
  | key
  | noun
  | lowerNoun
  /-- The first code point of the name in camel case. -/
  | initial
  /-- The rest of the name in camel case. -/
  | tail
  deriving DecidableEq

/-- A part of the templates of steps besides the places for fields and sample. -/
inductive Segment where
  | fixed (t : Text)
  | made (part : KeyPart)
  deriving DecidableEq

namespace KeyPart

/-- The tokens of the part. -/
def tokens : KeyPart → List Token
  | key => [.name "key"]
  | noun => [.name "noun"]
  | lowerNoun => [.name "lower_noun"]
  | initial => [.name "camel", .symbol "[", .symbol ":", .int 1, .symbol "]", .symbol "|", .name "upper"]
  | tail => [.name "camel", .symbol "[", .int 1, .symbol ":", .symbol "]"]

/-- The expression of the part. -/
def expr : KeyPart → Expr
  | key => .name "key"
  | noun => .name "noun"
  | lowerNoun => .name "lower_noun"
  | initial => .filter (.slice (.name "camel") .absent (.literal (.int 1)) .absent) "upper" []
  | tail => .slice (.name "camel") (.literal (.int 1)) .absent .absent

/-- What the part is for a key. -/
def text (name : Text) : KeyPart → Text
  | key => Naming.snakeCase name
  | noun => Naming.capitalize name
  | lowerNoun => Text.lower name
  | initial => Text.upper ((Naming.camelCase name).take 1)
  | tail => (Naming.camelCase name).drop 1

end KeyPart

namespace Segment

/-- The piece of the segment. -/
def piece : Segment → Piece
  | fixed t => .text t
  | made part => .output part.tokens

/-- The node of the segment. -/
def node : Segment → Node
  | fixed t => .text t
  | made part => .output part.expr

/-- What the segment is for a key. -/
def text (name : Text) : Segment → Text
  | fixed t => t
  | made part => part.text name

end Segment

/-! ## The templates -/

/-- The template of a category as it is bundled. -/
def stepSource : Category → Text
  | .trigger => triggerSource
  | .search => searchSource
  | .write => writeSource

/-- What a category's function does, as its name begins. -/
def deed : Category → Text
  | .trigger => "trigger"
  | .search => "search"
  | .write => "create"

/-- The comment in front, around the noun. -/
def comment : Category → Text × Text
  | .trigger => ("// triggers on ", "")
  | .search => ("// find a particular ", " by name")
  | .write => ("// create a particular ", " by name")

/-- The line with the method of the request. -/
def method : Category → Text
  | .trigger | .search => "    method: 'GET',"
  | .write => "    method: 'POST',"

/-- The line with what the request sends. -/
def payload : Category → Text
  | .trigger | .search => "    params: bundle.inputData"
  | .write => "    body: JSON.stringify(bundle.inputData)"

/-- What the label says in front of the noun, and the description in front of its own. -/
def display : Category → Text × Text
  | .trigger => ("New ", "Triggers on a new ")
  | .search => ("Find ", "Finds a ")
  | .write => ("Create ", "Creates a ")

/-- The segments in front of the fields. -/
def frontSegments (c : Category) : List Segment :=
  [.fixed (comment c).1, .made .lowerNoun,
   .fixed (linesText [(comment c).2] ++ "const " ++ deed c), .made .initial, .made .tail,
   .fixed (linesText [" = (z, bundle) => \x7b", "  const responsePromise = z.request(\x7b", method c]
     ++ "    url: 'https://example.com/api/"),
   .made .key,
   .fixed (linesText [".json',", payload c, "  \x7d);", "  return responsePromise",
       "    .then(response => z.JSON.parse(response.content));", "\x7d;", "", "module.exports = \x7b"]
     ++ "  key: '"),
   .made .key, .fixed (linesText ["',"] ++ "  noun: '"), .made .noun,
   .fixed (linesText ["',", "", "  display: \x7b"] ++ "    label: '" ++ (display c).1), .made .noun,
   .fixed (linesText ["',"] ++ "    description: '" ++ (display c).2), .made .lowerNoun,
   .fixed (linesText [".'", "  \x7d,", "", "  operation: \x7b", "    inputFields: ["])]

/-- The lines between fields and sample. -/
def fieldsEnd : Text := linesText ["", "    ],"]

/-- The lines behind everything else. -/
def stepEnd : Text := linesText ["", "  \x7d", "\x7d;"]

/-- The segments behind the sample. -/
def backSegments (c : Category) : List Segment :=
  [.fixed ("    perform: " ++ deed c), .made .initial, .made .tail, .fixed stepEnd]

/-- The pieces of a category's template. -/
def stepPieces (c : Category) : List Piece :=
  (frontSegments c).map Segment.piece ++ .output [.name "fields"] :: .text fieldsEnd ::
    .output [.name "sample"] :: (backSegments c).map Segment.piece

/-- The nodes of a category's template. -/
def stepNodes (c : Category) : List Node :=
  (frontSegments c).map Segment.node ++ .output (.name "fields") :: .text fieldsEnd ::
    .output (.name "sample") :: (backSegments c).map Segment.node

theorem pieces_step (c : Category) : pieces (Utf8.universalLines (stepSource c)) = .ok (stepPieces c) := by
  apply eq_ok_of_toOption
  cases c
  all_goals
    simp (disch := exact rfl) only [stepSource, triggerSource, searchSource, writeSource, stepPieces, frontSegments,
      backSegments, fieldsEnd, stepEnd, method, payload, comment, deed, display, linesText, Text.ofString_eq]
    decide +kernel

theorem read_step (c : Category) : read (Utf8.universalLines (stepSource c)) = .ok (stepNodes c) := by
  unfold read
  rw [pieces_step]
  cases c <;> rfl

/-! ## Segments one after another -/

/-- The names in a module are made of a key. -/
structure MadeOf (m : Generate.StepModule) (name : Text) : Prop where
  key : m.key = Naming.snakeCase name
  camel : m.camel = Naming.camelCase name
  noun : m.noun = Naming.capitalize name
  lowerNoun : m.lowerNoun = Text.lower name

variable {m : Generate.StepModule} {name : Text}

theorem KeyPart.eval (h : MadeOf m name) (part : KeyPart) :
    part.expr.eval m.bindings = .ok (.value (.str (part.text name))) := by
  have hcamel : (Expr.name "camel").eval m.bindings = .ok (.value (.str (Naming.camelCase name))) := by
    rw [← h.camel]
    rfl
  cases part with
  | key =>
      show _ = Except.ok (Operand.value (.str (Naming.snakeCase name)))
      rw [← h.key]
      rfl
  | noun =>
      show _ = Except.ok (Operand.value (.str (Naming.capitalize name)))
      rw [← h.noun]
      rfl
  | lowerNoun =>
      show _ = Except.ok (Operand.value (.str (Text.lower name)))
      rw [← h.lowerNoun]
      rfl
  | initial =>
      have hslice : (Expr.slice (.name "camel") .absent (.literal (.int 1)) .absent).eval m.bindings =
          .ok (.value (.str ((Naming.camelCase name).take 1))) := by
        rw [← slice_initial, Expr.eval, hcamel]
        rfl
      show (Expr.filter _ "upper" []).eval m.bindings = _
      rw [Expr.eval, hslice]
      rfl
  | tail =>
      show (Expr.slice (.name "camel") (.literal (.int 1)) .absent .absent).eval m.bindings = _
      rw [Expr.eval, hcamel]
      exact congrArg Except.ok (slice_tail (Naming.camelCase name))

/-- An output that is a text is put in front of the rest as it is. -/
theorem renderNodes_output {env after : Bindings} {nodes : List Node} {e : Expr} {t rest : Text}
    (he : e.eval env = .ok (.value (.str t))) (h : renderNodes env nodes = .ok (rest, after)) :
    renderNodes env (.output e :: nodes) = .ok (t ++ rest, after) := by
  rw [renderNodes, Node.render, he]
  simp only [bind, Except.bind, pure, Except.pure, Operand.use, h]
  rfl

/-- **One segment** is put in front of the rest. -/
theorem renderNodes_segment (hm : MadeOf m name) {after : Bindings} {nodes : List Node} {rest : Text} (s : Segment)
    (h : renderNodes m.bindings nodes = .ok (rest, after)) :
    renderNodes m.bindings (s.node :: nodes) = .ok (s.text name ++ rest, after) := by
  cases s with
  | fixed t => exact renderNodes_text t h
  | made part => exact renderNodes_output (part.eval hm) h

/-- **Segments one after another** are put in front of the rest, each as it is. -/
theorem renderNodes_segments (hm : MadeOf m name) {after : Bindings} {nodes : List Node} {rest : Text}
    (ss : List Segment) (h : renderNodes m.bindings nodes = .ok (rest, after)) :
    renderNodes m.bindings (ss.map Segment.node ++ nodes) = .ok (ss.flatMap (Segment.text name) ++ rest, after) := by
  induction ss with
  | nil => exact h
  | cons s ss ih =>
      have hstep := renderNodes_segment hm s ih
      rw [List.flatMap_cons, List.append_assoc]
      exact hstep

/-! ## The text of a step's module -/

/-- What stands in front of the fields. -/
def stepFront (c : Category) (name : Text) : Text := (frontSegments c).flatMap (Segment.text name)

/-- What stands behind the sample. -/
def stepBack (c : Category) (name : Text) : Text := (backSegments c).flatMap (Segment.text name)

/-- **The text of a step's module**: fields and sample as they are, between texts that are made of the key. -/
theorem render_step (hm : MadeOf m name) (c : Category) :
    render (stepNodes c) m.bindings =
      .ok (stepFront c name ++ m.fields ++ fieldsEnd ++ m.sample ++ stepBack c name) := by
  have hfields : List.lookup ("fields" : Text) m.bindings = some (Value.str m.fields) := rfl
  have hsample : List.lookup ("sample" : Text) m.bindings = some (Value.str m.sample) := rfl
  have hback := renderNodes_segments hm (backSegments c) (renderNodes_nil m.bindings)
  rw [List.append_nil] at hback
  have hplaces := renderNodes_name hfields (renderNodes_text fieldsEnd (renderNodes_name hsample hback))
  rw [render, stepNodes, renderNodes_segments hm (frontSegments c) hplaces]
  simp [Except.map, stepFront, stepBack]

/-- Behind the last brace stands one line feed. -/
theorem stepEnd_suffix (c : Category) (name : Text) : stepEnd <:+ stepBack c name := by
  unfold stepBack backSegments
  rw [List.flatMap_cons, List.flatMap_cons, List.flatMap_cons, List.flatMap_singleton]
  exact (List.suffix_append ..).trans ((List.suffix_append ..).trans (List.suffix_append ..))

end StepForge.Template
