import StepForge.Number.Binary64

/-!
# `StepForge.Number.Shortest` — the fewest digits that read back

A finite positive datum stands for the interval of reals that round to it. Its decimal text uses the
shortest decimal in that interval, and of several shortest ones the nearest to the datum.

## Contents
- `Decimal` — digits and a power of ten.
- `readsBack` — whether a decimal lies in the interval of a datum.
- `shortest` — the decimal that stands for a datum.
-/

namespace StepForge

/-- The number `digits · 10 ^ exponent`. -/
structure Decimal where
  digits : Nat
  exponent : Int
  deriving DecidableEq, Repr

namespace Binary64

/-- Compares `a · 10 ^ i` with `b · 2 ^ j`. -/
def compareScaled (a : Nat) (i : Int) (b : Nat) (j : Int) : Ordering :=
  compare (a * Nat.pow 10 i.toNat * Nat.pow 2 (-j).toNat) (b * Nat.pow 2 j.toNat * Nat.pow 10 (-i).toNat)

/-- Whether the datum below is only half as far away as the datum above. -/
def narrowBelow (x : Binary64) : Bool := x.fraction.val == 0 && 1 < x.exponent.val

/-- Whether a decimal rounds to the magnitude of a finite datum: it lies between the midpoints to
the neighbours, which count when the significand is even. -/
def readsBack (x : Binary64) (d : Decimal) : Bool :=
  -- In quarters of the last place, so that the midpoints are integers.
  let low := if x.narrowBelow then 4 * x.mantissa - 1 else 4 * x.mantissa - 2
  let high := 4 * x.mantissa + 2
  let closed := x.mantissa % 2 == 0
  let fromLow := compareScaled d.digits d.exponent low (x.scale - 2)
  let toHigh := compareScaled d.digits d.exponent high (x.scale - 2)
  (fromLow == .gt || (closed && fromLow == .eq)) && (toHigh == .lt || (closed && toHigh == .eq))

/-- The least `k` of at least `k₀` with the magnitude below `10 ^ k`, found within `fuel` steps. -/
def magnitudeFrom (x : Binary64) : Nat → Int → Int
  | 0, k => k
  | fuel + 1, k =>
      if compareScaled 1 k x.mantissa x.scale == .gt then k else magnitudeFrom x fuel (k + 1)

/-- The least `k` with the magnitude of a positive finite datum below `10 ^ k`: at most two more
than the estimate from the binary logarithm. -/
def magnitude (x : Binary64) : Int :=
  let bits : Int := x.scale + Nat.log2 x.mantissa
  magnitudeFrom x 3 ((bits * 1233).fdiv 4096)

/-- The magnitude over `10 ^ e`, rounded down. -/
def floorOver (x : Binary64) (e : Int) : Nat :=
  (x.mantissa * Nat.pow 2 x.scale.toNat * Nat.pow 10 (-e).toNat)
    / (Nat.pow 2 (-x.scale).toNat * Nat.pow 10 e.toNat)

/-- The decimal on the grid `10 ^ e` that reads back and is nearest, if one of the two neighbours of
the datum on that grid reads back; an exact tie goes to even digits. -/
def onGrid? (x : Binary64) (e : Int) : Option Decimal :=
  let low : Decimal := ⟨x.floorOver e, e⟩
  let high : Decimal := ⟨x.floorOver e + 1, e⟩
  match x.readsBack low, x.readsBack high with
  | false, false => none
  | true, false => some low
  | false, true => some high
  | true, true =>
      match compareScaled (low.digits + high.digits) e (2 * x.mantissa) x.scale with
      | .gt => some low
      | .lt => some high
      | .eq => some (if low.digits % 2 = 0 then low else high)

/-- The digits without trailing zeros. -/
def stripZeros : Nat → Decimal → Decimal
  | 0, d => d
  | fuel + 1, d =>
      if d.digits != 0 && d.digits % 10 == 0 then stripZeros fuel ⟨d.digits / 10, d.exponent + 1⟩ else d

/-- The exact value of a finite datum as a decimal. -/
def exact (x : Binary64) : Decimal :=
  ⟨x.mantissa * Nat.pow 2 x.scale.toNat * Nat.pow 5 (-x.scale).toNat, min x.scale 0⟩

/-- The shortest decimal that reads back as the magnitude of a positive finite datum; seventeen
digits always suffice, and the exact value stands behind them. -/
def shortest (x : Binary64) : Decimal :=
  let k := x.magnitude
  let found := (List.range 17).findSome? fun n => x.onGrid? (k - (n + 1 : Nat))
  let d := found.getD x.exact
  stripZeros (Nat.log2 d.digits + 1) d

end Binary64
end StepForge
