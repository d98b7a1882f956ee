import StepForge.Number.Binary64
import StepForge.Text.LetterCase
import StepForge.Text.Numeral

/-!
# `StepForge.Number.Reading` — numbers written with a point or an exponent

## Contents
- `decimal?` — digits around an optional point with an optional exponent.
- `Binary64.ofText?` — the datum nearest to what a text writes, infinities and not-a-number included.
-/

namespace StepForge

/-- The decimal digits of any script at the start of a text, and the text behind them. -/
def leadingDigits (t : Text) : List Nat × Text :=
  let ds := t.takeWhile fun c => (Text.decimalDigit? c).isSome
  (ds.filterMap Text.decimalDigit?, t.drop ds.length)

/-- The exponent that a text is, or zero if it is empty. -/
def exponent? : Text → Option Int
  | [] => some 0
  | e :: t =>
      if e = 'e'.toNat || e = 'E'.toNat then
        let (negative, t) := Text.takeSign t
        match leadingDigits t with
        | (d :: ds, []) =>
            let n : Int := Text.valueOf 10 (d :: ds)
            some (if negative then -n else n)
        | _ => none
      else none

/-- The digits of a decimal without sign, and the power of ten of the last of them. -/
def decimal? (t : Text) : Option (Nat × Int) :=
  let (whole, t) := leadingDigits t
  let (places, t) := match t with
    | 0x2E :: t => leadingDigits t
    | t => ([], t)
  if whole.isEmpty && places.isEmpty then none
  else (exponent? t).map fun e => (Text.valueOf 10 (whole ++ places), e - places.length)

/-- The datum nearest to the number that a text writes, with white space around it and an optional sign. -/
def Binary64.ofText? (t : Text) : Option Binary64 :=
  let (negative, t) := Text.takeSign (Text.trim Text.isBlank t)
  let word := Text.lower t
  if word = ("inf" : Text) || word = ("infinity" : Text) then some (infinity negative)
  else if word = ("nan" : Text) then some nan
  else (decimal? t).map fun (digits, e) => ofDecimal negative digits e

end StepForge
