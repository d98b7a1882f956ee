/-!
# `StepForge.Proofs.Results` — results put together

A computation that may fail is followed by another, by a function of its result, or by another name for its
fault. Such a computation ends in one way exactly if its parts end in theirs.

## Contents
- `map_eq_ok_iff`, `map_eq_error_iff` — a function of a result.
- `mapError_eq_ok_iff` — another name for a fault.
- `bind_eq_ok_iff`, `bind_eq_error_iff` — one computation behind another.
- `eq_ok_of_toOption`, `fault?`, `eq_error_of_fault?` — results without their faults, and faults without results.
-/

namespace StepForge

section

variable {ε δ α β : Type} {r : Except ε α}

theorem map_eq_ok_iff {f : α → β} {b : β} : r.map f = .ok b ↔ ∃ a, r = .ok a ∧ f a = b := by
  cases r with
  | error e => simp [Except.map]
  | ok a => simp [Except.map]

/-- What is made of a result fails as the result does. -/
theorem map_eq_error_iff {f : α → β} {e : ε} : r.map f = .error e ↔ r = .error e := by
  cases r with
  | error e => simp [Except.map]
  | ok a => simp [Except.map]

/-- Another name for a fault makes no difference to a result that is none. -/
theorem mapError_eq_ok_iff {f : ε → δ} {a : α} : r.mapError f = .ok a ↔ r = .ok a := by
  cases r with
  | error e =>
      constructor
      · intro h
        cases h
      · intro h
        cases h
  | ok b =>
      constructor
      · intro h
        cases h
        rfl
      · intro h
        cases h
        rfl

theorem bind_eq_ok_iff {f : α → Except ε β} {b : β} : r >>= f = .ok b ↔ ∃ a, r = .ok a ∧ f a = .ok b := by
  cases r with
  | error e => simp [bind, Except.bind]
  | ok a => simp [bind, Except.bind]

/-- One computation behind another fails where one of them does. -/
theorem bind_eq_error_iff {f : α → Except ε β} {e : ε} :
    r >>= f = .error e ↔ r = .error e ∨ ∃ a, r = .ok a ∧ f a = .error e := by
  cases r with
  | error e => simp [bind, Except.bind]
  | ok a => simp [bind, Except.bind]

/-- Results can be compared without their faults. -/
theorem eq_ok_of_toOption {a : α} (h : r.toOption = some a) : r = .ok a := by
  cases r with
  | error e => cases h
  | ok found => exact congrArg Except.ok (Option.some.inj h)

/-- The fault of a result, if it has one. -/
def fault? : Except ε α → Option ε
  | .error e => some e
  | .ok _ => none

/-- Faults can be compared without the results. -/
theorem eq_error_of_fault? {e : ε} (h : fault? r = some e) : r = .error e := by
  cases r with
  | error found => exact congrArg Except.error (Option.some.inj h)
  | ok a => cases h

end

end StepForge
