import StepForge.Generate.Index
import StepForge.Proofs.Results
import StepForge.Proofs.Template.Bundled
import StepForge.Proofs.Text.Literal
import StepForge.Proofs.Text.Split

/-!
# `StepForge.Proofs.Template.Index` — the template of the index

The template puts four texts between fixed lines: what is required, and what is registered for each
category. Each of the four has lines of its own, so the lines of an index are those of the four texts and
the fixed ones between them.

## Contents
- `renderNodes_text`, `renderNodes_name` — nodes that are fixed texts and names.
- `opening`, `header`, `closing` — the fixed lines.
- `render_index` — the text of an index.
- `splitOn_index` — its lines.
-/

namespace StepForge.Template

/-! ## Fixed texts and names -/

theorem renderNodes_nil (env : Bindings) : renderNodes env [] = .ok ([], env) := rfl

/-- A fixed text is put in front of the rest. -/
theorem renderNodes_text {env after : Bindings} {nodes : List Node} {rest : Text} (t : Text)
    (h : renderNodes env nodes = .ok (rest, after)) :
    renderNodes env (.text t :: nodes) = .ok (t ++ rest, after) := by
  rw [renderNodes, Node.render]
  simp only [bind, Except.bind, h]
  rfl

/-- A name that is bound to a text is put in front of the rest as that text. -/
theorem renderNodes_name {env after : Bindings} {nodes : List Node} {name t rest : Text}
    (hname : env.lookup name = some (.str t)) (h : renderNodes env nodes = .ok (rest, after)) :
    renderNodes env (.output (.name name) :: nodes) = .ok (t ++ rest, after) := by
  rw [renderNodes, Node.render, Expr.eval, hname]
  simp only [bind, Except.bind, pure, Except.pure, Option.map_some, Option.getD_some, Operand.use, h]
  rfl

/-! ## The nodes -/

/-- The fixed lines behind what is required. -/
def opening : List Text :=
  ["",
   "const App = \x7b",
   "  version: require('./package.json').version,",
   "  platformVersion: require('zapier-platform-core').version,",
   "",
   "  beforeRequest: [",
   "  ],",
   "",
   "  afterResponse: [",
   "  ],",
   "",
   "  resources: \x7b",
   "  \x7d,",
   ""]

/-- The line in front of what is registered for a category. -/
def header : Category → Text
  | .trigger => "  triggers: \x7b"
  | .search => "  searches: \x7b"
  | .write => "  creates: \x7b"

/-- The fixed lines behind what is registered for a category. -/
def closing : Category → List Text
  | .trigger => ["  \x7d,", ""]
  | .search => ["  \x7d,", ""]
  | .write => ["  \x7d", "\x7d;", "", "module.exports = App;"]

/-- The parts of the template. -/
def indexPieces : List Piece :=
  [.output [.name "requires"],
   .text (10 :: linesText (opening ++ [header .trigger])),
   .output [.name "triggers"],
   .text (10 :: linesText (closing .trigger ++ [header .search])),
   .output [.name "searches"],
   .text (10 :: linesText (closing .search ++ [header .write])),
   .output [.name "writes"],
   .text (10 :: linesText (closing .write))]

/-- The nodes of the template. -/
def indexNodes : List Node :=
  [.output (.name "requires"),
   .text (10 :: linesText (opening ++ [header .trigger])),
   .output (.name "triggers"),
   .text (10 :: linesText (closing .trigger ++ [header .search])),
   .output (.name "searches"),
   .text (10 :: linesText (closing .search ++ [header .write])),
   .output (.name "writes"),
   .text (10 :: linesText (closing .write))]

theorem pieces_index : pieces (Utf8.universalLines indexSource) = .ok indexPieces := by
  apply eq_ok_of_toOption
  simp (disch := exact rfl) only [indexSource, indexPieces, opening, header, closing, linesText, Text.ofString_eq]
  decide +kernel

theorem read_index : read (Utf8.universalLines indexSource) = .ok indexNodes := by
  unfold read
  rw [pieces_index]
  rfl

/-! ## The text of an index -/

/-- The text of an index: the four texts, each between fixed lines. -/
def indexText (m : Generate.IndexModule) : Text :=
  m.requires ++ 10 :: (linesText (opening ++ [header .trigger]) ++
    (m.triggers ++ 10 :: (linesText (closing .trigger ++ [header .search]) ++
      (m.searches ++ 10 :: (linesText (closing .search ++ [header .write]) ++
        (m.writes ++ 10 :: linesText (closing .write)))))))

theorem render_index (m : Generate.IndexModule) : render indexNodes m.bindings = .ok (indexText m) := by
  have hrequires : List.lookup ("requires" : Text) m.bindings = some (Value.str m.requires) := rfl
  have htriggers : List.lookup ("triggers" : Text) m.bindings = some (Value.str m.triggers) := rfl
  have hsearches : List.lookup ("searches" : Text) m.bindings = some (Value.str m.searches) := rfl
  have hwrites : List.lookup ("writes" : Text) m.bindings = some (Value.str m.writes) := rfl
  have hnodes := renderNodes_name hrequires <| renderNodes_text (10 :: linesText (opening ++ [header .trigger])) <|
    renderNodes_name htriggers <| renderNodes_text (10 :: linesText (closing .trigger ++ [header .search])) <|
    renderNodes_name hsearches <| renderNodes_text (10 :: linesText (closing .search ++ [header .write])) <|
    renderNodes_name hwrites <| renderNodes_text (10 :: linesText (closing .write)) <|
    renderNodes_nil m.bindings
  unfold render indexNodes
  rw [hnodes]
  simp [indexText, Except.map]

/-! ## The lines of an index -/

/-- Lines that are each ended come back, in front of what stands behind them. -/
theorem splitOn_linesText {lines : List Text} (h : ∀ line ∈ lines, 10 ∉ line) (rest : Text) :
    Text.splitOn 10 (linesText lines ++ rest) = lines ++ Text.splitOn 10 rest := by
  induction lines with
  | nil => rfl
  | cons line lines ih =>
      have hline : linesText (line :: lines) ++ rest = line ++ 10 :: (linesText lines ++ rest) := by
        simp [linesText]
      rw [hline, Text.splitOn_append_sep, Text.splitOn_eq_singleton (h line (by simp)),
        ih fun l hl => h l (List.mem_cons_of_mem line hl)]
      rfl

/-- The lines of a text that joins some lines: one empty line if there are none. -/
def linesOf (lines : List Text) : List Text := if lines.isEmpty then [[]] else lines

theorem splitOn_lines {lines : List Text} (h : ∀ line ∈ lines, 10 ∉ line) :
    Text.splitOn 10 (Text.join "\n" lines) = linesOf lines := by
  have hsep : ("\n" : Text) = [10] := rfl
  rw [hsep]
  cases lines with
  | nil => rfl
  | cons line lines => exact Text.splitOn_join (by simp) h

theorem opening_lines : ∀ line ∈ opening, 10 ∉ line := by decide +kernel

theorem header_line (c : Category) : 10 ∉ header c := by cases c <;> decide

theorem closing_lines (c : Category) : ∀ line ∈ closing c, 10 ∉ line := by cases c <;> decide

/-- **The lines of an index** are those of the four texts and the fixed ones between them. -/
theorem splitOn_index {m : Generate.IndexModule} :
    Text.splitOn 10 (indexText m) =
      Text.splitOn 10 m.requires ++ opening ++ [header .trigger] ++
      Text.splitOn 10 m.triggers ++ closing .trigger ++ [header .search] ++
      Text.splitOn 10 m.searches ++ closing .search ++ [header .write] ++
      Text.splitOn 10 m.writes ++ closing .write ++ [[]] := by
  have hfixed : ∀ (lines : List Text) (c : Category), (∀ line ∈ lines, 10 ∉ line) →
      ∀ line ∈ lines ++ [header c], 10 ∉ line := by
    intro lines c h line hline
    rcases List.mem_append.1 hline with hline | hline
    · exact h line hline
    · exact List.mem_singleton.1 hline ▸ header_line c
  have hlast := splitOn_linesText (closing_lines .write) []
  rw [List.append_nil] at hlast
  unfold indexText
  rw [Text.splitOn_append_sep, splitOn_linesText (hfixed _ _ opening_lines),
    Text.splitOn_append_sep, splitOn_linesText (hfixed _ _ (closing_lines .trigger)),
    Text.splitOn_append_sep, splitOn_linesText (hfixed _ _ (closing_lines .search)),
    Text.splitOn_append_sep, hlast]
  simp [Text.splitOn]

end StepForge.Template
