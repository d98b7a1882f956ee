import StepForge.Proofs.Conversion.Variables
import StepForge.Proofs.Naming.Identifier
import StepForge.Proofs.Text.Numeral

/-!
# `StepForge.Proofs.Conversion.Identifiers` — which variables are identifiers

The variable of a step begins as its key does, and ends with the name of its category. So it is never empty, and
a key in ASCII brings nothing else into it than letters and digits. But nothing keeps a digit away from its
front. An entry of a list without a key is named by its position, which is a number, so its variable is
never an identifier.

## Contents
- `isIdentifier_stepVariable` — when the variable of a step is an identifier.
- `listed?`, `exists_step_of_listed` — the steps that entries of lists without a key become.
- `variables_are_identifiers_iff` — the same for all variables that an index declares.
-/

namespace StepForge

namespace Conversion

open Naming

/-! ## Variables -/

/-- A variable is never empty, whatever its key is: it ends with the name of its category. -/
theorem stepVariable_ne_nil (key : Text) (c : Category) : Generate.stepVariable key c.name ≠ [] := by
  have hname : capitalize (camelCase c.name) ≠ [] := by cases c <;> decide +kernel
  unfold Generate.stepVariable
  simp [hname]

/-- A key in ASCII brings letters and digits of ASCII into its variable and nothing else. -/
theorem stepVariable_of_ascii {key : Text} (h : ∀ x ∈ key, x < 128) (c : Category) :
    ∀ x ∈ Generate.stepVariable key c.name, (isAsciiLetter x || isAsciiDigit x) = true := by
  have hname : ∀ x ∈ c.name, x < 128 := by cases c <;> decide
  intro x hx
  have hascii : x < 128 := by
    rcases List.mem_append.1 hx with hx | hx
    · exact isAscii_camelCase h x hx
    · exact isAscii_capitalize (isAscii_camelCase hname) x hx
  rw [← isNamePoint_of_ascii hascii]
  exact isNamePoint_stepVariable key c.name x hx

/-- **The variable of a step is an identifier** exactly when the first letter or digit of its key is no digit. -/
theorem isIdentifier_stepVariable {key : Text} (h : ∀ x ∈ key, x < 128) (c : Category) :
    isIdentifier (Generate.stepVariable key c.name) = true ↔ (leading? key).any isAsciiDigit = false := by
  have hsmall : ∀ x < 128, isAsciiDigit (smallPoint x) = isAsciiDigit x := by decide +kernel
  have hname : (capitalize (camelCase c.name)).head?.any isAsciiDigit = false := by cases c <;> decide +kernel
  have hhead := head?_camelCase h
  rw [isIdentifier_iff (stepVariable_ne_nil key c) (stepVariable_of_ascii h c)]
  unfold Generate.stepVariable
  rw [List.head?_append, hhead]
  cases hlead : leading? key with
  | none => simp [hname]
  | some x =>
      have hx : x < 128 := h x (List.mem_of_find?_eq_some hlead)
      simp [hsmall x hx]

/-! ## Keys that are positions -/

/-- Positions are written in digits. -/
theorem isAsciiDigit_of_mem_ofNat {n : Nat} {x : CodePoint} (h : x ∈ Text.ofNat n) : isAsciiDigit x = true := by
  have hdigit := Text.digit_of_mem_ofNat h
  simpa [isAsciiDigit] using hdigit

theorem isAscii_ofNat (n : Nat) : ∀ x ∈ Text.ofNat n, x < 128 := by
  intro x hx
  have hdigit := isAsciiDigit_of_mem_ofNat hx
  simp only [isAsciiDigit, Bool.and_eq_true, decide_eq_true_eq] at hdigit
  exact Nat.lt_of_le_of_lt hdigit.2 (by decide)

/-- A position begins with a digit. -/
theorem leading?_ofNat (n : Nat) : (leading? (Text.ofNat n)).any isAsciiDigit = true := by
  have hname : ∀ x, isAsciiDigit x = true → isNamePoint x = true := by
    intro x hx
    simp only [isAsciiDigit, isNamePoint, Bool.or_eq_true, Bool.and_eq_true, decide_eq_true_eq] at hx ⊢
    omega
  cases ht : Text.ofNat n with
  | nil =>
      have hlen := Text.length_ofNat_pos n
      rw [ht] at hlen
      exact absurd hlen (Nat.lt_irrefl 0)
  | cons x t =>
      have hx : isAsciiDigit x = true := isAsciiDigit_of_mem_ofNat (n := n) (by simp [ht])
      rw [leading?, List.find?_cons_of_pos (hname x hx)]
      exact hx

/-- An entry of a list that has no key is under its position. -/
theorem mem_listEntries {items : List Value} {i n : Nat} {entry : Value} (h : items[i]? = some entry)
    (hkey : entry.member? "key" = none) : (.int (n + i : Nat), entry) ∈ listEntries n items := by
  induction items generalizing i n with
  | nil => cases h
  | cons item items ih =>
      cases i with
      | zero =>
          cases h
          rw [listEntries, hkey]
          exact List.mem_cons_self
      | succ i =>
          have hrest := ih (n := n + 1) (i := i) h
          rw [Nat.add_assoc, Nat.add_comm 1 i] at hrest
          exact List.mem_cons_of_mem _ hrest

/-- The entries of a collection that is a list. -/
def listed? (v : Value) : Option (List Value) :=
  match v.unfolded with
  | .list items => some items
  | .tuple items => some items
  | _ => none

theorem exists_step_of_listed {v : Value} {c : Category} {items : List Value} {i : Nat} {entry : Value}
    (hitems : listed? (v.member c.collection) = some items) (h : items[i]? = some entry)
    (hkey : entry.member? "key" = none) : ∃ s, (c, Text.ofNat i, s) ∈ (App.ofValue v).stepList := by
  rw [← mem_entryKeys_iff, mem_entryKeys]
  have hmem := mem_listEntries (n := 0) h hkey
  rw [Nat.zero_add] at hmem
  refine ⟨(.int i, entry), ?_, rfl⟩
  unfold listed? at hitems
  unfold entriesOf
  split at hitems
  · next heq =>
      cases hitems
      rw [heq]
      exact hmem
  · next heq =>
      cases hitems
      rw [heq]
      exact hmem
  · cases hitems

/-- **When variables are identifiers.** An index declares the variables of the steps in order. One whose key is in
ASCII is not empty and holds letters and digits of ASCII only, and it is an identifier exactly when the first letter
or digit of the key is no digit. Each entry without a key in a list of steps is a step under its position, and its
variable is no identifier. -/
theorem variables_are_identifiers_iff (app : App) (settings : Settings) (t : Tree) :
    ∃ index, (Artifact.index.render app settings t Template.Library.standard).1 = .ok index ∧
      declared index = app.stepList.map (fun e => Generate.stepVariable e.2.1 e.1.name) ∧
      (∀ e ∈ app.stepList, (∀ x ∈ e.2.1, x < 128) →
        let v := Generate.stepVariable e.2.1 e.1.name
        v ≠ [] ∧ (∀ x ∈ v, (isAsciiLetter x || isAsciiDigit x) = true) ∧
          (isIdentifier v = true ↔ (leading? e.2.1).any isAsciiDigit = false)) ∧
      (∀ v c items i entry, app = App.ofValue v → listed? (v.member c.collection) = some items →
        items[i]? = some entry → entry.member? "key" = none →
        ∃ s, (c, Text.ofNat i, s) ∈ app.stepList ∧ Generate.stepVariable (Text.ofNat i) c.name ∈ declared index ∧
          isIdentifier (Generate.stepVariable (Text.ofNat i) c.name) = false) := by
  have hdeclared := declared_indexText app
  refine ⟨_, index_render app settings t, hdeclared, ?_, ?_⟩
  · intro e _ hascii
    exact ⟨stepVariable_ne_nil e.2.1 e.1, stepVariable_of_ascii hascii e.1, isIdentifier_stepVariable hascii e.1⟩
  · rintro v c items i entry rfl hitems hentry hkey
    obtain ⟨s, hs⟩ := exists_step_of_listed hitems hentry hkey
    refine ⟨s, hs, ?_, ?_⟩
    · rw [hdeclared]
      exact List.mem_map.2 ⟨_, hs, rfl⟩
    · have hdigit := leading?_ofNat i
      have hnot : ¬ isIdentifier (Generate.stepVariable (Text.ofNat i) c.name) = true := by
        rw [isIdentifier_stepVariable (isAscii_ofNat i) c, hdigit]
        decide
      simpa using hnot

/-- A list of steps whose only entry has no key. -/
def unnamedStep : Value := .map [(.str "triggers", .list [.map []])]

/-- The index of a step without a key declares a variable that begins with a digit. -/
theorem unnamedStep_not_identifier :
    ∃ index,
      (Artifact.index.render (App.ofValue unnamedStep) {} Tree.empty Template.Library.standard).1 = .ok index ∧
      declared index = [("0Trigger" : Text)] ∧ isIdentifier ("0Trigger" : Text) = false := by
  obtain ⟨index, hindex, hdeclared, _, hlisted⟩ :=
    variables_are_identifiers_iff (App.ofValue unnamedStep) {} Tree.empty
  have hitems : listed? (unnamedStep.member Category.trigger.collection) = some [.map []] := by cbv
  have hkey : (Value.map []).member? "key" = none := by cbv
  obtain ⟨s, _, _, hnot⟩ := hlisted unnamedStep .trigger [.map []] 0 (.map []) rfl hitems rfl hkey
  have hname : Generate.stepVariable (Text.ofNat 0) Category.trigger.name = "0Trigger" := by decide +kernel
  rw [hname] at hnot
  refine ⟨index, hindex, ?_, hnot⟩
  rw [hdeclared]
  decide +kernel

end Conversion
end StepForge
