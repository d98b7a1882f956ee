import StepForge.Proofs.Json.Members

/-!
# `StepForge.Proofs.Json.Steps` — reading without fuel

The reader is given fuel for the depth of its calls. Twice the length of a text and one or two units more are
enough, and more than enough makes no difference. So the reader can be spoken of without fuel.

## Contents
- `Settled`, `settled` — more fuel than enough makes no difference.
- `readValue`, `readItems`, `readMembers` — values, items and members, read with enough fuel.
- `value_of_le`, `items_of_le`, `members_of_le` — the same with more fuel.
-/

namespace StepForge.Json.Reader

/-! ## Lengths -/

theorem length_skipSpace_le (t : Text) : (skipSpace t).length ≤ t.length := (skipSpace_suffix t).length_le

theorem length_lt_of_skipSpace {t rest : Text} {c : CodePoint} (h : skipSpace t = c :: rest) :
    rest.length < t.length := by
  have hle := length_skipSpace_le t
  rw [h] at hle
  exact hle

theorem length_string_le {opened : Nat} {t s rest : Text} (h : string opened 0 t = .ok (s, rest)) :
    rest.length ≤ t.length := (suffix_of_string h).length_le

/-! ## Enough fuel -/

/-- On texts up to a size, one unit more than enough makes no difference. -/
structure Settled (size : Nat) : Prop where
  value : ∀ {t} fuel, t.length ≤ size → 2 * size + 1 ≤ fuel → value (fuel + 1) t = value fuel t
  items : ∀ {t} fuel, t.length ≤ size → 2 * size + 2 ≤ fuel → items (fuel + 1) t = items fuel t
  members : ∀ {t} fuel, t.length ≤ size → 2 * size + 2 ≤ fuel → members (fuel + 1) t = members fuel t

/-- A value leads to shorter texts. -/
theorem settled_value {size : Nat} (ih : ∀ s < size, Settled s) {t : Text} {fuel : Nat} (ht : t.length ≤ size)
    (hfuel : 2 * size + 1 ≤ fuel) : value (fuel + 1) t = value fuel t := by
  obtain ⟨fuel, rfl⟩ : ∃ k, fuel = k + 1 := ⟨fuel - 1, by omega⟩
  cases t with
  | nil => rfl
  | cons c rest =>
      have hrest : (skipSpace rest).length ≤ size - 1 := by
        have hle := length_skipSpace_le rest
        have hlen : rest.length + 1 ≤ size := ht
        omega
      have hsize : 0 < size := Nat.lt_of_lt_of_le (Nat.succ_pos _) ht
      have hsettled := ih (size - 1) (by omega)
      have hitems := hsettled.items fuel hrest (by omega)
      have hmembers := hsettled.members fuel hrest (by omega)
      rw [value, value]
      dsimp only
      generalize skipSpace rest = inner at hitems hmembers
      split
      · rfl
      · split
        · split
          · rfl
          · rw [hmembers]
        · split
          · split
            · rfl
            · rw [hitems]
          · rfl

/-- Items lead to one value and to shorter texts. -/
theorem settled_items {size : Nat} (ih : ∀ s < size, Settled s)
    (hvalue : ∀ {t} fuel, t.length ≤ size → 2 * size + 1 ≤ fuel → Reader.value (fuel + 1) t = Reader.value fuel t)
    {t : Text} {fuel : Nat} (ht : t.length ≤ size) (hfuel : 2 * size + 2 ≤ fuel) :
    items (fuel + 1) t = items fuel t := by
  obtain ⟨fuel, rfl⟩ : ∃ k, fuel = k + 1 := ⟨fuel - 1, by omega⟩
  rw [items, items, hvalue _ ht (by omega)]
  cases hread : value fuel t with
  | error e => rfl
  | ok found =>
      obtain ⟨x, behind⟩ := found
      have hbehind : behind.length ≤ size := Nat.le_trans ((leaves fuel).value hread).length_le ht
      simp only [bind, Except.bind]
      split
      · rfl
      · next more hcomma =>
          have hmore := length_lt_of_skipSpace hcomma
          have hle := length_skipSpace_le more
          rw [(ih (size - 1) (by omega)).items fuel (by omega) (by omega)]
      · rfl

/-- Members lead to one value and to shorter texts. -/
theorem settled_members {size : Nat} (ih : ∀ s < size, Settled s)
    {t : Text} {fuel : Nat} (ht : t.length ≤ size) (hfuel : 2 * size + 2 ≤ fuel) :
    members (fuel + 1) t = members fuel t := by
  obtain ⟨fuel, rfl⟩ : ∃ k, fuel = k + 1 := ⟨fuel - 1, by omega⟩
  unfold members
  split
  · next rest =>
      have hrest : rest.length + 1 ≤ size := ht
      cases hname : string (34 :: rest).length 0 rest with
      | error e => rfl
      | ok found =>
          obtain ⟨name, colon⟩ := found
          have hcolon := length_string_le hname
          simp only [bind, Except.bind]
          split
          · next behind hmark =>
              have hbehind := length_lt_of_skipSpace hmark
              have hle := length_skipSpace_le behind
              have hsettled := ih (size - 1) (by omega)
              rw [hsettled.value fuel (by omega) (by omega)]
              cases hread : value fuel (skipSpace behind) with
              | error e => rfl
              | ok found =>
                  obtain ⟨v, left⟩ := found
                  have hleft := ((leaves fuel).value hread).length_le
                  dsimp only
                  split
                  · rfl
                  · next more hcomma =>
                      have hmore := length_lt_of_skipSpace hcomma
                      have hlast := length_skipSpace_le more
                      rw [hsettled.members fuel (by omega) (by omega)]
                  · rfl
          · rfl
  · rfl

/-- **More fuel than enough makes no difference.** -/
theorem settled (size : Nat) : Settled size := by
  -- A value or member leads to shorter texts, and an item to one value of the same text.
  induction size using Nat.strongRecOn with
  | ind size ih =>
      have hvalue : ∀ {t} fuel, t.length ≤ size → 2 * size + 1 ≤ fuel →
          Reader.value (fuel + 1) t = Reader.value fuel t := fun _ => settled_value ih
      exact ⟨hvalue, fun _ => settled_items ih hvalue, fun _ => settled_members ih⟩

/-! ## Without fuel -/

/-- A value at the start of a text, read with enough fuel. -/
def readValue (t : Text) : Except Failure (Value × Text) := value (2 * t.length + 1) t

/-- Items at the start of a text, read with enough fuel. -/
def readItems (t : Text) : Except Failure (List Value × Text) := items (2 * t.length + 2) t

/-- Members at the start of a text, read with enough fuel. -/
def readMembers (t : Text) : Except Failure (List (Value × Value) × Text) := members (2 * t.length + 2) t

theorem value_of_le {t : Text} {fuel : Nat} (h : 2 * t.length + 1 ≤ fuel) : value fuel t = readValue t := by
  induction fuel, h using Nat.le_induction with
  | base => rfl
  | succ fuel hle ih => rw [(settled t.length).value _ (Nat.le_refl _) hle, ih]

theorem items_of_le {t : Text} {fuel : Nat} (h : 2 * t.length + 2 ≤ fuel) : items fuel t = readItems t := by
  induction fuel, h using Nat.le_induction with
  | base => rfl
  | succ fuel hle ih => rw [(settled t.length).items _ (Nat.le_refl _) hle, ih]

theorem members_of_le {t : Text} {fuel : Nat} (h : 2 * t.length + 2 ≤ fuel) : members fuel t = readMembers t := by
  induction fuel, h using Nat.le_induction with
  | base => rfl
  | succ fuel hle ih => rw [(settled t.length).members _ (Nat.le_refl _) hle, ih]

end StepForge.Json.Reader
