import StepForge.Text.Basic
import StepForge.Number.Shortest

/-!
# `StepForge.Number.Notation` — the layout of a decimal

Which digits a number has is settled elsewhere; here they are laid out, positionally or with an
exponent. The decisions of a format are one record.

## Contents
- `Layout` — the decisions.
- `Layout.digits` — a positive decimal laid out.
- `Layout.render` — any datum, special ones included.
-/

namespace StepForge

/-- The decisions of a format for numbers. -/
structure Layout where
  /-- The least power of ten of a leading digit that is written positionally. -/
  plainFrom : Int
  /-- The power of ten from which on an exponent is written. -/
  plainBelow : Int
  /-- Whether an integral value keeps a point and a zero. -/
  pointZero : Bool
  /-- The least number of exponent digits. -/
  exponentWidth : Nat
  /-- Whether the zero of negative sign shows it. -/
  signedZero : Bool
  nan : Text
  infinity : Text

namespace Layout

/-- A positive decimal: the digits around a point, or with one digit before it and an exponent. -/
def digits (f : Layout) (d : Decimal) : Text :=
  let ds := Text.ofNat d.digits
  let size : Int := ds.length
  let lead := d.exponent + size - 1
  if f.plainFrom ≤ lead && lead < f.plainBelow then
    if 0 ≤ d.exponent then
      ds ++ List.replicate d.exponent.toNat '0'.toNat ++ (if f.pointZero then ".0" else "" : Text)
    else if 0 ≤ lead then
      ds.take (lead + 1).toNat ++ '.'.toNat :: ds.drop (lead + 1).toNat
    else ("0." : Text) ++ List.replicate (-lead - 1).toNat '0'.toNat ++ ds
  else
    let tail := ds.drop 1
    ds.take 1 ++ (if tail.isEmpty then [] else '.'.toNat :: tail)
      ++ (if lead < 0 then "e-" else "e+" : Text)
      ++ Text.padLeft f.exponentWidth '0'.toNat (Text.ofNat lead.natAbs)

/-- The text of a datum. -/
def render (f : Layout) (x : Binary64) : Text :=
  if x.isNaN then f.nan
  else if x.isFinite && x.mantissa == 0 then
    (if x.negative && f.signedZero then "-" else "" : Text)
      ++ (if f.pointZero then "0.0" else "0" : Text)
  else
    (if x.negative then "-" else "" : Text)
      ++ (if x.isFinite then f.digits x.shortest else f.infinity)

end Layout
end StepForge
