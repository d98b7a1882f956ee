import Mathlib.Data.List.Basic
import StepForge.Proofs.Conversion.Rendering
import StepForge.Proofs.Definition.Keys
import StepForge.Proofs.Template.Index

/-!
# `StepForge.Proofs.Conversion.Index` — the index agrees with the planned files

The index names modules and variables in lines of text. Read back line by line it gives the steps that are
planned, in their order, whatever their keys are: names hold no quotes, brackets, blanks and line ends, so no
line can be taken for another one.

## Contents
- `requireText`, `readRequire`, `readRequire_eq_some_iff` — lines that require a module, and their reading.
- `registerText`, `sectionBody` — lines that register a variable, and the section they stand in.
- `modulesNamed` — all modules of the app that a line names.
- `index_agrees_with_plan` — the index read back.
-/

namespace StepForge.Conversion

open Template (opening header closing linesOf)

/-! ## Names of steps -/

theorem isNamePoint_stepVariable (key category : Text) :
    ∀ x ∈ Generate.stepVariable key category, Naming.isNamePoint x = true := by
  intro x hx
  rcases List.mem_append.1 hx with hx | hx
  · exact Naming.isNamePoint_camelCase key x hx
  · exact Naming.isNamePoint_capitalize (Naming.isNamePoint_camelCase category) x hx

theorem mem_stepModulePath {c : Category} {key : Text} {x : CodePoint}
    (h : x ∈ Generate.stepModulePath c key) :
    x = '/'.toNat ∨ x = '_'.toNat ∨ Naming.isNamePoint x = true := by
  have hdir : ∀ x ∈ c.directory, Naming.isNamePoint x = true := by cases c <;> decide
  rcases List.mem_append.1 h with h | h
  · exact Or.inr (Or.inr (hdir x h))
  · rcases List.mem_cons.1 h with h | h
    · exact Or.inl h
    · exact Or.inr (Naming.mem_snakeCase h)

theorem notMem_stepVariable {x : Nat} (h : Naming.isNamePoint x = false) (key category : Text) :
    x ∉ Generate.stepVariable key category := by
  intro hx
  rw [isNamePoint_stepVariable key category x hx] at h
  cases h

theorem notMem_stepModulePath {x : Nat} (h : Naming.isNamePoint x = false) (hslash : x ≠ '/'.toNat)
    (hline : x ≠ '_'.toNat) (c : Category) (key : Text) : x ∉ Generate.stepModulePath c key := by
  intro hx
  rcases mem_stepModulePath hx with hx | hx | hx
  · exact hslash hx
  · exact hline hx
  · rw [hx] at h
    cases h

/-! ## Lines that require -/

/-- The line that requires a module of the app as a variable. -/
def requireText (v path : Text) : Text := ("const " : Text) ++ v ++ " = require('./" ++ path ++ "');"

/-- The variable and the module of a line that requires one. -/
def readRequire (line : Text) : Option (Text × Text) :=
  match Text.splitOn '\''.toNat line with
  | [front, module, stop] => do
      let v ← (Text.dropStart? "const " front).bind (Text.dropEnd? " = require(")
      let path ← Text.dropStart? "./" module
      if stop = (");" : Text) then some (v, path) else none
  | _ => none

/-- A line that requires is three pieces between two quotes. -/
theorem requireText_eq_join (v path : Text) :
    requireText v path =
      Text.join ['\''.toNat] [("const " : Text) ++ v ++ " = require(", ("./" : Text) ++ path, ");"] := by
  have hmiddle : (" = require('./" : Text) = (" = require(" : Text) ++ ['\''.toNat] ++ "./" := rfl
  have hstop : ("');" : Text) = ['\''.toNat] ++ (");" : Text) := rfl
  unfold requireText
  rw [hmiddle, hstop, Text.join_cons_cons, Text.join_cons_cons, Text.join_singleton]
  simp

/-- The pieces of a line that requires names without quotes. -/
theorem splitOn_requireText {v path : Text} (hv : '\''.toNat ∉ v) (hpath : '\''.toNat ∉ path) :
    Text.splitOn '\''.toNat (requireText v path) =
      [("const " : Text) ++ v ++ " = require(", ("./" : Text) ++ path, ");"] := by
  have hconst : '\''.toNat ∉ ("const " : Text) := by decide
  have hrequire : '\''.toNat ∉ (" = require(" : Text) := by decide
  have hdot : '\''.toNat ∉ ("./" : Text) := by decide
  have hstop : '\''.toNat ∉ (");" : Text) := by decide
  rw [requireText_eq_join]
  apply Text.splitOn_join (by simp)
  intro piece hpiece
  simp only [List.mem_cons, List.not_mem_nil, or_false] at hpiece
  rcases hpiece with rfl | rfl | rfl
  · simp only [List.mem_append, not_or]
    exact ⟨⟨hconst, hv⟩, hrequire⟩
  · simp only [List.mem_append, not_or]
    exact ⟨hdot, hpath⟩
  · exact hstop

/-- **A line is read as one that requires exactly when it is one**, of names without quotes. -/
theorem readRequire_eq_some_iff {line v path : Text} :
    readRequire line = some (v, path) ↔
      line = requireText v path ∧ '\''.toNat ∉ v ∧ '\''.toNat ∉ path := by
  constructor
  · intro h
    unfold readRequire at h
    split at h
    · next front module stop hsplit =>
        simp only [bind, Option.bind_eq_some_iff] at h
        obtain ⟨w, ⟨behind, hfront, hbehind⟩, p, hmodule, hstop⟩ := h
        split at hstop
        · next heq =>
            cases hstop
            rw [Text.dropStart?_eq_some_iff] at hfront hmodule
            rw [Text.dropEnd?_eq_some_iff] at hbehind
            -- The pieces joined again are the line, and no piece holds a quote.
            have hline := Text.join_splitOn '\''.toNat line
            have hquote : ∀ piece ∈ [front, module, stop], '\''.toNat ∉ piece :=
              fun piece hpiece => Text.notMem_of_mem_splitOn (hsplit ▸ hpiece)
            have hfrontQuote := hquote front (by simp)
            have hmoduleQuote := hquote module (by simp)
            rw [hfront, hbehind] at hfrontQuote
            rw [hmodule] at hmoduleQuote
            rw [hsplit, hfront, hbehind, hmodule, heq, ← List.append_assoc, ← requireText_eq_join] at hline
            refine ⟨hline.symm, ?_, ?_⟩
            · exact fun hmem => hfrontQuote (List.mem_append_right _ (List.mem_append_left _ hmem))
            · exact fun hmem => hmoduleQuote (List.mem_append_right _ hmem)
        · cases hstop
    · cases h
  · rintro ⟨rfl, hv, hpath⟩
    have hfront : Text.dropStart? "const " (("const " : Text) ++ v ++ " = require(") =
        some (v ++ " = require(") := by
      rw [Text.dropStart?_eq_some_iff, List.append_assoc]
    have hbehind : Text.dropEnd? " = require(" (v ++ (" = require(" : Text)) = some v :=
      Text.dropEnd?_eq_some_iff.2 rfl
    have hmodule : Text.dropStart? "./" (("./" : Text) ++ path) = some path :=
      Text.dropStart?_eq_some_iff.2 rfl
    unfold readRequire
    rw [splitOn_requireText hv hpath]
    simp only [hfront, hbehind, hmodule, bind, Option.bind_some, if_true]

theorem readRequire_requireLine (c : Category) (key : Text) :
    readRequire (Generate.requireLine c key) =
      some (Generate.stepVariable key c.name, Generate.stepModulePath c key) := by
  rw [readRequire_eq_some_iff]
  refine ⟨rfl, notMem_stepVariable (by decide) key c.name, ?_⟩
  exact notMem_stepModulePath (by decide) (by decide) (by decide) c key

/-! ## Lines that register -/

/-- The line that registers the module held by a variable. -/
def registerText (v : Text) : Text := ("[" : Text) ++ v ++ ".key]: " ++ v ++ ","

theorem registerText_injective {v w : Text} (h : registerText v = registerText w) : v = w := by
  have hlen := congrArg List.length h
  simp only [registerText, List.length_append] at hlen
  have hvw : v.length = w.length := by omega
  unfold registerText at h
  simp only [List.append_assoc, List.append_cancel_left_eq] at h
  exact (List.append_inj h hvw).1

/-- The lines behind the header of a category, up to the one that closes its section. -/
def sectionBody (c : Category) (lines : List Text) : List Text :=
  ((lines.dropWhile (· ≠ header c)).drop 1).takeWhile fun line => !Text.startsWith line "  \x7d"

/-- The modules of the app that a line names between quotes. -/
def modulesNamed (line : Text) : List Text := inQuotes (Text.splitOn '\''.toNat line)
where
  /-- Of pieces that stand outside and inside of quotes in turn, those inside that begin at the top. -/
  inQuotes : List Text → List Text
    | _ :: module :: rest => (Text.dropStart? "./" module).toList ++ inQuotes rest
    | _ => []

/-! ## The lines of an index -/

/-- The lines of an index that require modules. -/
def requireLines (app : App) : List Text :=
  linesOf (app.stepList.map fun e => Generate.requireLine e.1 e.2.1)

/-- The lines of an index that register the steps of a category. -/
def registerLines (app : App) (c : Category) : List Text :=
  linesOf ((app.steps c).map fun e => registerText (Generate.stepVariable e.1 c.name))

theorem mem_linesOf {lines : List Text} {line : Text} (h : line ∈ linesOf lines) :
    line = [] ∨ line ∈ lines := by
  unfold linesOf at h
  split at h
  · exact Or.inl (List.mem_singleton.1 h)
  · exact Or.inr h

theorem mem_requireLines {app : App} {line : Text} (h : line ∈ requireLines app) :
    line = [] ∨ ∃ c key s, (c, key, s) ∈ app.stepList ∧ line = Generate.requireLine c key := by
  rcases mem_linesOf h with h | h
  · exact Or.inl h
  · obtain ⟨⟨c, key, s⟩, hmem, rfl⟩ := List.mem_map.1 h
    exact Or.inr ⟨c, key, s, hmem, rfl⟩

theorem mem_registerLines {app : App} {c : Category} {line : Text} (h : line ∈ registerLines app c) :
    line = [] ∨ ∃ e ∈ app.steps c, line = registerText (Generate.stepVariable e.1 c.name) := by
  rcases mem_linesOf h with h | h
  · exact Or.inl h
  · obtain ⟨e, hmem, rfl⟩ := List.mem_map.1 h
    exact Or.inr ⟨e, hmem, rfl⟩

theorem lineFeed_notMem_requireLine (c : Category) (key : Text) : 10 ∉ Generate.requireLine c key := by
  have hv := notMem_stepVariable (x := 10) (by decide) key c.name
  have hpath := notMem_stepModulePath (x := 10) (by decide) (by decide) (by decide) c key
  have hconst : 10 ∉ ("const " : Text) := by decide
  have hrequire : 10 ∉ (" = require('./" : Text) := by decide
  have hstop : 10 ∉ ("');" : Text) := by decide
  unfold Generate.requireLine
  simp only [List.mem_append, not_or]
  exact ⟨⟨⟨⟨hconst, hv⟩, hrequire⟩, hpath⟩, hstop⟩

theorem notMem_registerText {x : Nat} {v : Text} (hv : x ∉ v)
    (hfixed : x ∉ ("[" : Text) ++ (".key]: " : Text) ++ ("," : Text)) : x ∉ registerText v := by
  simp only [List.mem_append, not_or] at hfixed
  unfold registerText
  simp only [List.mem_append, not_or]
  exact ⟨⟨⟨⟨hfixed.1.1, hv⟩, hfixed.1.2⟩, hv⟩, hfixed.2⟩

/-- **The lines of an index**: what is required, and what is registered for each category, between fixed
lines. -/
theorem splitOn_indexText (app : App) :
    Text.splitOn '\n'.toNat (Template.indexText (Generate.indexModule app)) =
      requireLines app ++ opening ++ [header .trigger] ++
      registerLines app .trigger ++ closing .trigger ++ [header .search] ++
      registerLines app .search ++ closing .search ++ [header .write] ++
      registerLines app .write ++ closing .write ++ [[]] := by
  have hrequires : Text.splitOn 10 (Generate.indexModule app).requires = requireLines app := by
    have hlines : (Generate.indexModule app).requires =
        Text.join "\n" (app.stepList.map fun e => Generate.requireLine e.1 e.2.1) := by
      simp [Generate.indexModule, App.stepList, List.map_flatMap, Function.comp_def]
    rw [hlines, Template.splitOn_lines]
    · rfl
    · intro line hline
      obtain ⟨e, _, rfl⟩ := List.mem_map.1 hline
      exact lineFeed_notMem_requireLine e.1 e.2.1
  have hregisters : ∀ c, Text.splitOn 10 (Generate.registerLines app c) = registerLines app c := by
    intro c
    unfold Generate.registerLines
    rw [Template.splitOn_lines]
    · rfl
    · intro line hline
      obtain ⟨e, _, rfl⟩ := List.mem_map.1 hline
      exact notMem_registerText (notMem_stepVariable (by decide) e.1 c.name) (by decide)
  have hsplit := @Template.splitOn_index (Generate.indexModule app)
  rw [hrequires] at hsplit
  show Text.splitOn 10 _ = _
  rw [hsplit, ← hregisters, ← hregisters, ← hregisters]
  rfl

/-! ## Sections -/

/-- Lines made for steps begin at the left margin. -/
theorem head?_requireLines {app : App} {line : Text} (h : line ∈ requireLines app) :
    line.head? ≠ some ' '.toNat := by
  rcases mem_requireLines h with rfl | ⟨c, key, s, _, rfl⟩
  · simp
  · have hhead : (Generate.requireLine c key).head? = some 'c'.toNat := rfl
    rw [hhead]
    decide

theorem head?_registerLines {app : App} {c : Category} {line : Text} (h : line ∈ registerLines app c) :
    line.head? ≠ some ' '.toNat := by
  rcases mem_registerLines h with rfl | ⟨e, _, rfl⟩
  · simp
  · have hhead : (registerText (Generate.stepVariable e.1 c.name)).head? = some '['.toNat := rfl
    rw [hhead]
    decide

theorem header_notMem {c : Category} {lines : List Text}
    (h : ∀ line ∈ lines, line.head? ≠ some ' '.toNat) : header c ∉ lines := by
  intro hmem
  have hhead : (header c).head? = some ' '.toNat := by cases c <;> rfl
  exact h _ hmem hhead

/-- A section is read back between its header and the line that closes it. -/
theorem sectionBody_append {c : Category} {before body behind : List Text} (hbefore : header c ∉ before)
    (hbody : ∀ line ∈ body, line.head? ≠ some ' '.toNat) :
    sectionBody c (before ++ header c :: (body ++ (closing c ++ behind))) = body := by
  have hskip : ∀ line ∈ before, decide (line ≠ header c) = true := by
    intro line hline
    have hne : line ≠ header c := by
      rintro rfl
      exact hbefore hline
    simpa using hne
  have hkeep : ∀ line ∈ body, (!Text.startsWith line "  \x7d") = true := by
    intro line hline
    have hhead := hbody line hline
    cases line with
    | nil => rfl
    | cons x line =>
        have hx : ' '.toNat ≠ x := fun heq => hhead (congrArg some heq.symm)
        show (!(Text.dropStart? (' '.toNat :: _) (x :: line)).isSome) = true
        rw [Text.dropStart?, if_neg hx]
        rfl
  have hclose : (closing c ++ behind).takeWhile (fun line => !Text.startsWith line "  \x7d") = [] := by
    cases c <;> rfl
  unfold sectionBody
  rw [List.dropWhile_append_of_pos hskip, List.dropWhile_cons_of_neg (by simp), List.drop_one, List.tail_cons,
    List.takeWhile_append_of_pos hkeep, hclose, List.append_nil]

/-- **The section of a category** holds the lines that register its steps. -/
theorem sectionBody_index (app : App) (c : Category) :
    sectionBody c (Text.splitOn '\n'.toNat (Template.indexText (Generate.indexModule app))) =
      registerLines app c := by
  have hopening : ∀ d, header d ∉ opening := by
    intro d
    cases d <;> decide
  have hclosing : ∀ d e, header d ∉ closing e := by
    intro d e
    cases d <;> cases e <;> decide
  have hheader : header .search ≠ header .trigger ∧ header .write ≠ header .trigger ∧
      header .write ≠ header .search := by decide
  have hrequire : ∀ d, header d ∉ requireLines app := fun d => header_notMem fun _ => head?_requireLines
  have hregister : ∀ d e, header d ∉ registerLines app e := fun d e => header_notMem fun _ => head?_registerLines
  have hbody := fun (c : Category) (before behind : List Text) (hbefore : header c ∉ before) =>
    @sectionBody_append c before (registerLines app c) behind hbefore fun _ => head?_registerLines
  -- The header of a category does not stand in front of its own section, whatever the steps are.
  rw [splitOn_indexText]
  cases c with
  | trigger =>
      refine Eq.trans (congrArg _ ?_) (hbody .trigger (requireLines app ++ opening)
        ([header .search] ++ registerLines app .search ++ closing .search ++ [header .write] ++
          registerLines app .write ++ closing .write ++ [[]]) ?_)
      · simp
      · simp only [List.mem_append, not_or]
        exact ⟨hrequire _, hopening _⟩
  | search =>
      refine Eq.trans (congrArg _ ?_) (hbody .search (requireLines app ++ opening ++ [header .trigger] ++
        registerLines app .trigger ++ closing .trigger)
        ([header .write] ++ registerLines app .write ++ closing .write ++ [[]]) ?_)
      · simp
      · simp only [List.mem_append, List.mem_singleton, not_or]
        exact ⟨⟨⟨⟨hrequire _, hopening _⟩, hheader.1⟩, hregister _ _⟩, hclosing _ _⟩
  | write =>
      refine Eq.trans (congrArg _ ?_) (hbody .write (requireLines app ++ opening ++ [header .trigger] ++
        registerLines app .trigger ++ closing .trigger ++ [header .search] ++
        registerLines app .search ++ closing .search) [[]] ?_)
      · simp
      · simp only [List.mem_append, List.mem_singleton, not_or]
        exact ⟨⟨⟨⟨⟨⟨⟨hrequire _, hopening _⟩, hheader.2.1⟩, hregister _ _⟩, hclosing _ _⟩, hheader.2.2⟩,
          hregister _ _⟩, hclosing _ _⟩

/-! ## What the lines say -/

/-- A line without quotes requires nothing and names no module. -/
theorem reading_of_noQuote {line : Text} (h : '\''.toNat ∉ line) :
    readRequire line = none ∧ modulesNamed line = [] := by
  unfold readRequire modulesNamed
  rw [Text.splitOn_eq_singleton h]
  exact ⟨rfl, rfl⟩

/-- The fixed lines require no step, and name no module but the manifest. -/
theorem reading_of_fixed {line : Text} (h : line ∈ opening ∨ (∃ c, line = header c) ∨ ∃ c, line ∈ closing c) :
    readRequire line = none ∧ ∀ name ∈ modulesNamed line, name = ("package.json" : Text) := by
  rcases h with h | ⟨c, rfl⟩ | ⟨c, h⟩
  · have hall : ∀ line ∈ opening, (readRequire line).isNone = true ∧
        ∀ name ∈ modulesNamed line, name = ("package.json" : Text) := by decide +kernel
    exact ⟨Option.isNone_iff_eq_none.1 (hall line h).1, (hall line h).2⟩
  · have hquote : '\''.toNat ∉ header c := by cases c <;> decide
    rw [(reading_of_noQuote hquote).1, (reading_of_noQuote hquote).2]
    simp
  · have hquote : ∀ line ∈ closing c, '\''.toNat ∉ line := by cases c <;> decide
    rw [(reading_of_noQuote (hquote line h)).1, (reading_of_noQuote (hquote line h)).2]
    simp

theorem reading_of_registerLines {app : App} {c : Category} {line : Text} (h : line ∈ registerLines app c) :
    readRequire line = none ∧ modulesNamed line = [] := by
  apply reading_of_noQuote
  rcases mem_registerLines h with rfl | ⟨e, _, rfl⟩
  · simp
  · exact notMem_registerText (notMem_stepVariable (by decide) e.1 c.name) (by decide)

theorem modulesNamed_requireLine (c : Category) (key : Text) :
    modulesNamed (Generate.requireLine c key) = [Generate.stepModulePath c key] := by
  have hv := notMem_stepVariable (x := '\''.toNat) (by decide) key c.name
  have hpath := notMem_stepModulePath (x := '\''.toNat) (by decide) (by decide) (by decide) c key
  have hline : Generate.requireLine c key =
      requireText (Generate.stepVariable key c.name) (Generate.stepModulePath c key) := rfl
  have hmodule : Text.dropStart? "./" (("./" : Text) ++ Generate.stepModulePath c key) =
      some (Generate.stepModulePath c key) := Text.dropStart?_eq_some_iff.2 rfl
  unfold modulesNamed
  rw [hline, splitOn_requireText hv hpath]
  simp [modulesNamed.inQuotes, hmodule]

/-- The empty line that stands for no lines is not read. -/
theorem filterMap_linesOf {α : Type} {f : Text → Option α} (h : f [] = none) (lines : List Text) :
    (linesOf lines).filterMap f = lines.filterMap f := by
  unfold linesOf
  split
  · next hempty =>
      rw [List.isEmpty_iff.1 hempty]
      simp [h]
  · rfl

/-- **What an index requires** are the modules of the steps, in order. -/
theorem filterMap_readRequire_index (app : App) :
    (Text.splitOn '\n'.toNat (Template.indexText (Generate.indexModule app))).filterMap readRequire =
      app.stepList.map fun e => (Generate.stepVariable e.2.1 e.1.name, Generate.stepModulePath e.1 e.2.1) := by
  have hnone : ∀ lines : List Text, (∀ line ∈ lines, readRequire line = none) →
      lines.filterMap readRequire = [] := by
    intro lines h
    exact List.filterMap_eq_nil_iff.2 h
  have hopening := hnone opening fun line h => (reading_of_fixed (Or.inl h)).1
  have hheader : ∀ c, readRequire (header c) = none :=
    fun c => (reading_of_fixed (Or.inr (Or.inl ⟨c, rfl⟩))).1
  have hclosing : ∀ c, (closing c).filterMap readRequire = [] :=
    fun c => hnone _ fun line h => (reading_of_fixed (Or.inr (Or.inr ⟨c, h⟩))).1
  have hregister : ∀ c, (registerLines app c).filterMap readRequire = [] :=
    fun c => hnone _ fun line h => (reading_of_registerLines h).1
  have hlast : readRequire [] = none := rfl
  have hrequire : (requireLines app).filterMap readRequire =
      app.stepList.map fun e =>
        (Generate.stepVariable e.2.1 e.1.name, Generate.stepModulePath e.1 e.2.1) := by
    unfold requireLines
    rw [filterMap_linesOf hlast, List.filterMap_map, ← List.filterMap_eq_map]
    apply List.filterMap_congr
    intro e _
    exact readRequire_requireLine e.1 e.2.1
  rw [splitOn_indexText]
  simp only [List.filterMap_append, hrequire, hopening, hregister, hclosing, hheader, hlast,
    List.filterMap_cons, List.filterMap_nil, List.append_nil]

/-- **Every module that an index names** is a planned file. -/
theorem modulesNamed_index (app : App) {line : Text}
    (hline : line ∈ Text.splitOn '\n'.toNat (Template.indexText (Generate.indexModule app)))
    {name : Text} (hname : name ∈ modulesNamed line) :
    ∃ task ∈ plan app, task.fileName = name ∨ task.fileName = name ++ (".js" : Text) := by
  have hmanifest : ⟨"package.json", .manifest⟩ ∈ plan app := mem_plan.2 (Or.inr (Or.inr rfl))
  have hfixed : (line ∈ opening ∨ (∃ c, line = header c) ∨ ∃ c, line ∈ closing c) →
      ∃ task ∈ plan app, task.fileName = name ∨ task.fileName = name ++ (".js" : Text) := by
    intro h
    exact ⟨_, hmanifest, Or.inl ((reading_of_fixed h).2 name hname).symm⟩
  have hregister : ∀ c, line ∉ registerLines app c := by
    intro c h
    rw [(reading_of_registerLines h).2] at hname
    simp at hname
  have hlast : line ≠ [] := by
    rintro rfl
    simp [modulesNamed, Text.splitOn, modulesNamed.inQuotes] at hname
  rw [splitOn_indexText] at hline
  simp only [List.mem_append, List.mem_singleton, hregister, hlast, or_false] at hline
  -- Lines made for steps name planned steps, and the fixed ones no module but the manifest.
  by_cases hrequire : line ∈ requireLines app
  · rcases mem_requireLines hrequire with rfl | ⟨c, key, s, hmem, rfl⟩
    · exact absurd rfl hlast
    · rw [modulesNamed_requireLine, List.mem_singleton] at hname
      subst hname
      exact ⟨_, mem_plan.2 (Or.inl ⟨c, key, s, hmem, rfl⟩), Or.inr rfl⟩
  · simp only [hrequire, false_or] at hline
    apply hfixed
    rcases hline with (((((h | h) | h) | h) | h) | h) | h
    · exact Or.inl h
    · exact Or.inr (Or.inl ⟨_, h⟩)
    · exact Or.inr (Or.inr ⟨_, h⟩)
    · exact Or.inr (Or.inl ⟨_, h⟩)
    · exact Or.inr (Or.inr ⟨_, h⟩)
    · exact Or.inr (Or.inl ⟨_, h⟩)
    · exact Or.inr (Or.inr ⟨_, h⟩)

/-! ## The index and the plan -/

/-- The variable and the file of a task that is a step. -/
def Task.step? (task : Task) : Option (Text × Text) :=
  match task.artifact with
  | .step c key _ => some (Generate.stepVariable key c.name, task.fileName)
  | _ => none

theorem filterMap_step?_plan (app : App) :
    (plan app).filterMap Task.step? =
      app.stepList.map fun e => (Generate.stepVariable e.2.1 e.1.name, Generate.stepFileName e.1 e.2.1) := by
  unfold plan
  rw [List.filterMap_append, List.filterMap_map]
  have hrest : [(⟨"index.js", .index⟩ : Task), ⟨"package.json", .manifest⟩].filterMap Task.step? = [] := rfl
  rw [hrest, List.append_nil, ← List.filterMap_eq_map]
  rfl

theorem index_render (app : App) (settings : Settings) (t : Tree) :
    (Artifact.index.render app settings t Template.Library.standard).1 =
      .ok (Template.indexText (Generate.indexModule app)) := by
  have hbundled : (("index.js.j2" : Text), Template.indexSource) ∈ Template.bundled := by
    unfold Template.bundled
    exact List.mem_cons_self
  have hgives := Template.standard_gives hbundled Template.read_index t
  exact Artifact.render_eq_ok_iff.2 ⟨_, _, rfl, hgives, Template.render_index _⟩

/-- **The index agrees with the plan.** Whatever the keys of the steps are, the index is rendered, and its
lines say: the modules that are required, each with its variable, are the planned steps in their order; the
section of a category registers the variables of its steps in their order, and nothing else but an empty line
if there are none; so a variable that is registered is required; and every module of the app that a line
names is a planned file. -/
theorem index_agrees_with_plan (app : App) (settings : Settings) (t : Tree) :
    ∃ text, (Artifact.index.render app settings t Template.Library.standard).1 = .ok text ∧
      let lines := Text.splitOn '\n'.toNat text
      (lines.filterMap readRequire).map (fun r => (r.1, r.2 ++ (".js" : Text))) =
          (plan app).filterMap Task.step? ∧
        (∀ c, sectionBody c lines =
          linesOf ((app.steps c).map fun e => registerText (Generate.stepVariable e.1 c.name))) ∧
        (∀ c v, registerText v ∈ sectionBody c lines → ∃ path, (v, path) ∈ lines.filterMap readRequire) ∧
        ∀ line ∈ lines, ∀ name ∈ modulesNamed line,
          ∃ task ∈ plan app, task.fileName = name ∨ task.fileName = name ++ (".js" : Text) := by
  refine ⟨_, index_render app settings t, ?_, ?_, ?_, ?_⟩
  · rw [filterMap_readRequire_index, filterMap_step?_plan, List.map_map]
    rfl
  · exact sectionBody_index app
  · intro c v hv
    rw [sectionBody_index] at hv
    rcases mem_registerLines hv with hempty | ⟨e, he, hline⟩
    · have hhead := congrArg List.head? hempty
      cases hhead
    · have hsame := registerText_injective hline
      subst hsame
      refine ⟨Generate.stepModulePath c e.1, ?_⟩
      rw [filterMap_readRequire_index]
      have hmem : (c, e.1, e.2) ∈ app.stepList := mem_stepList.2 he
      exact List.mem_map_of_mem hmem
  · intro line hline name hname
    exact modulesNamed_index app hline hname

end StepForge.Conversion
