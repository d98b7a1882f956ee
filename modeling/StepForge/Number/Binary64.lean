/-!
# `StepForge.Number.Binary64` — double-precision numbers in exact arithmetic

A number in a definition that has a point or an exponent is a binary64 datum. Its three fields are
kept as they are laid out in a word, so every value of the type is a datum and equality of fields is
equality of data. Each operation computes exactly on integers and rounds once.

## Contents
- `Binary64`, `mantissa`, `scale` — a finite datum is `± mantissa · 2 ^ scale`.
- `ofRatio`, `ofScaled`, `ofDecimal`, `ofInt` — the nearest datum, ties to even.
- `add`, `mul`, `neg`, `toInt?`, `same` — the operations the readers need.
-/

namespace StepForge

/-- The number of fractions: the fifty-second power of two. -/
abbrev fractionCount : Nat := 4503599627370496

/-- A binary64 datum: sign, biased exponent and fraction. -/
structure Binary64 where
  negative : Bool
  exponent : Fin 2048
  fraction : Fin fractionCount
  deriving DecidableEq

namespace Binary64

instance : Inhabited Binary64 := ⟨⟨false, 0, 0⟩⟩

/-- The one quiet datum that is not a number. -/
def nan : Binary64 := ⟨false, 2047, Fin.ofNat _ (fractionCount / 2)⟩

/-- The infinity of a sign. -/
def infinity (negative : Bool) : Binary64 := ⟨negative, 2047, 0⟩

/-- The zero of a sign. -/
def zero (negative : Bool) : Binary64 := ⟨negative, 0, 0⟩

/-- Neither an infinity nor not-a-number. -/
def isFinite (x : Binary64) : Bool := x.exponent.val != 2047

/-- Not a number. -/
def isNaN (x : Binary64) : Bool := x.exponent.val == 2047 && x.fraction.val != 0

/-- The integer significand of a finite datum: the fraction, under a leading one unless subnormal. -/
def mantissa (x : Binary64) : Nat :=
  if x.exponent.val = 0 then x.fraction.val else fractionCount + x.fraction.val

/-- The power of two by which the significand of a finite datum is scaled. -/
def scale (x : Binary64) : Int := (max x.exponent.val 1 : Nat) - 1075

/-! ## Rounding -/

/-- The integer nearest to `num / den`, an exact half going to the even neighbour. -/
def roundRatio (num den : Nat) : Nat :=
  let q := num / den
  let r := num % den
  if 2 * r < den then q
  else if den < 2 * r then q + 1
  else if q % 2 = 0 then q else q + 1

/-- The largest `e` with `2 ^ e ≤ num / den`, for positive `num` and `den`. -/
def ratioLog (num den : Nat) : Int :=
  let e : Int := (Nat.log2 num : Int) - (Nat.log2 den : Int)
  if num * Nat.pow 2 (-e).toNat < den * Nat.pow 2 e.toNat then e - 1 else e

/-- The datum of a significand below `2 ^ 53` and a scale of at least -1074. -/
def assemble (negative : Bool) (m : Nat) (q : Int) : Binary64 :=
  if m < fractionCount then ⟨negative, 0, Fin.ofNat _ m⟩
  else if 2046 < q + 1075 then infinity negative
  else ⟨negative, Fin.ofNat _ (q + 1075).toNat, Fin.ofNat _ (m - fractionCount)⟩

/-- The datum nearest to `± num / den`, ties to the even significand; too large a ratio is infinite. -/
def ofRatio (negative : Bool) (num den : Nat) : Binary64 :=
  if num = 0 then zero negative
  else
    let q := max (ratioLog num den - 52) (-1074)
    -- Rounding up may give one bit too many, which is then zero.
    let m := roundRatio (num * Nat.pow 2 (-q).toNat) (den * Nat.pow 2 q.toNat)
    if m < 2 * fractionCount then assemble negative m q else assemble negative (m / 2) (q + 1)

/-- The datum nearest to `± m · 2 ^ q`. -/
def ofScaled (negative : Bool) (m : Nat) (q : Int) : Binary64 :=
  ofRatio negative (m * Nat.pow 2 q.toNat) (Nat.pow 2 (-q).toNat)

/-- The datum nearest to an integer. -/
def ofInt (n : Int) : Binary64 := ofRatio (n < 0) n.natAbs 1

/-- The datum nearest to `± digits · 10 ^ e`. A value with more than 310 digits before the point is
infinite and one below `10 ^ -400` is zero, whatever its digits. -/
def ofDecimal (negative : Bool) (digits : Nat) (e : Int) : Binary64 :=
  let size : Int := (Nat.toDigits 10 digits).length
  if digits = 0 then zero negative
  else if 310 < size + e then infinity negative
  else if size + e < -400 then zero negative
  else ofRatio negative (digits * Nat.pow 10 e.toNat) (Nat.pow 10 (-e).toNat)

/-! ## Operations -/

/-- The datum with the other sign. -/
def neg (x : Binary64) : Binary64 := { x with negative := !x.negative }

/-- The signed significand of a finite datum. -/
def signedMantissa (x : Binary64) : Int := if x.negative then -(x.mantissa : Int) else x.mantissa

/-- The product, rounded once. -/
def mul (x y : Binary64) : Binary64 :=
  let negative := x.negative != y.negative
  if x.isNaN || y.isNaN then nan
  else if x.isFinite && y.isFinite then
    ofScaled negative (x.mantissa * y.mantissa) (x.scale + y.scale)
  else if (x.isFinite && x.mantissa = 0) || (y.isFinite && y.mantissa = 0) then nan
  else infinity negative

/-- The sum, rounded once; an exact zero is negative only if both terms are. -/
def add (x y : Binary64) : Binary64 :=
  if x.isNaN || y.isNaN then nan
  else if x.isFinite && y.isFinite then
    let q := min x.scale y.scale
    let total := x.signedMantissa * (Nat.pow 2 (x.scale - q).toNat : Nat)
      + y.signedMantissa * (Nat.pow 2 (y.scale - q).toNat : Nat)
    if total = 0 then zero (x.negative && y.negative)
    else ofScaled (total < 0) total.natAbs q
  else if x.isFinite then y
  else if y.isFinite then x
  else if x.negative = y.negative then x else nan

/-- The integer a datum stands for, if it is finite and has no fraction. -/
def toInt? (x : Binary64) : Option Int :=
  if x.isFinite then
    let den := Nat.pow 2 (-x.scale).toNat
    if x.mantissa % den = 0 then
      let n : Nat := x.mantissa / den * Nat.pow 2 x.scale.toNat
      some (if x.negative then -(n : Int) else n)
    else none
  else none

/-- Whether two data are one number: zeros of both signs are, and what is not a number is none. -/
def same (x y : Binary64) : Bool :=
  !x.isNaN && (x == y || (x.isFinite && y.isFinite && x.mantissa == 0 && y.mantissa == 0))

/-- Whether a number is below one. -/
def belowOne (x : Binary64) : Bool :=
  !x.isNaN && (x.negative || x.exponent.val < 1023)

end Binary64
end StepForge
