import StepForge.Value.Basic

/-!
# `StepForge.Value.Quantity` — numbers as settings give them

A setting that is a number may be written as an integer, with a point, or as a truth value, which
counts as zero or one.

## Contents
- `Quantity`, `ofValue?` — the numbers, out of values.
- `exceeds`, `isPositive` — how they compare.
-/

namespace StepForge

/-- A number as a setting gives it. -/
inductive Quantity where
  | int (n : Int)
  | float (x : Binary64)
  | bool (b : Bool)
  deriving DecidableEq

namespace Quantity

/-- The number that a value gives. -/
def ofValue? : Value → Option Quantity
  | .int n => some (.int n)
  | .float x => some (.float x)
  | .bool b => some (.bool b)
  | _ => none

/-- Whether the number is more than a length; nothing that is not a number is. -/
def exceeds (q : Quantity) (length : Nat) : Bool :=
  match q with
  | int n => (length : Int) < n
  | bool b => length < b.toNat
  | float x =>
      if x.isNaN || x.negative then false
      else if x.isFinite then
        length * Nat.pow 2 (-x.scale).toNat < x.mantissa * Nat.pow 2 x.scale.toNat
      else true

/-- Whether the number is more than zero. -/
def isPositive (q : Quantity) : Bool := q.exceeds 0

end Quantity
end StepForge
