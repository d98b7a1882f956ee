import StepForge.Text.Basic

/-!
# `StepForge.Text.Base64` — bytes spelled with sixty-four letters

Four letters spell three bytes. Whatever is no letter is passed over, and reading ends at the padding
that completes a group of four.

## Contents
- `sextet?` — the value of a letter.
- `decode?` — the bytes of a text.
-/

namespace StepForge.Base64

/-- The value of a letter. -/
def sextet? (c : CodePoint) : Option Nat :=
  if 65 ≤ c && c ≤ 90 then some (c - 65)
  else if 97 ≤ c && c ≤ 122 then some (c - 71)
  else if 48 ≤ c && c ≤ 57 then some (c + 4)
  else if c = '+'.toNat then some 62
  else if c = '/'.toNat then some 63
  else none

/-- The sextets of a text up to the padding that completes a group; `count` sextets came before, and
`pads` marks of padding directly before. Nothing if the last group has no whole byte or no padding. -/
def sextets? : (count pads : Nat) → Text → Option (List Nat)
  | count, _, [] => if count % 4 = 0 then some [] else none
  | count, pads, c :: t =>
      if c = '='.toNat then
        if 2 ≤ count % 4 then
          if 4 ≤ count % 4 + pads + 1 then some [] else sextets? count (pads + 1) t
        else sextets? count pads t
      else match sextet? c with
        | some s => (sextets? (count + 1) 0 t).map (s :: ·)
        | none => sextets? count pads t

/-- The whole bytes of a list of sextets. -/
def bytesOf : List Nat → List UInt8
  | a :: b :: c :: d :: rest =>
      UInt8.ofNat (a * 4 + b / 16) :: UInt8.ofNat (b * 16 + c / 4) :: UInt8.ofNat (c * 64 + d) :: bytesOf rest
  | [a, b, c] => [UInt8.ofNat (a * 4 + b / 16), UInt8.ofNat (b * 16 + c / 4)]
  | [a, b] => [UInt8.ofNat (a * 4 + b / 16)]
  | _ => []

/-- The bytes that a text spells. -/
def decode? (t : Text) : Option (List UInt8) := (sextets? 0 0 t).map bytesOf

end StepForge.Base64
