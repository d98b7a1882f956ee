import StepForge.Number.Reading
import StepForge.Text.Base64
import StepForge.Text.Quoted
import StepForge.Value.Basic
import StepForge.Yaml.Node

/-!
# `StepForge.Yaml.Scalar` — the values of scalars

A tag may be put on any text, so each kind of scalar has its own faults.

## Contents
- `intValue`, `floatValue`, `boolValue`, `timestampValue`, `binaryValue` — one kind each.
- `scalarValue` — the value of a text with a tag.
-/

namespace StepForge.Yaml

/-- The integer of a numeral of a base. -/
def numeral (base : Nat) (t : Text) : Except Fault Int :=
  (Text.integerOf base t).mapError fun f => .value f.message

/-- The text without underscores. -/
def withoutUnderscores (t : Text) : Text := t.filter (· ≠ '_'.toNat)

/-- The value of parts in base sixty, the most significant one first. -/
def sexagesimal (parts : List Int) : Int := parts.foldl (fun n d => n * 60 + d) 0

/-- An integer: a mark tells its base, a leading zero base eight, and colons base sixty. -/
def intValue (t : Text) : Except Fault Value := do
  let (negative, t) := Text.takeSign (withoutUnderscores t)
  let n ← match t with
    | [] => .error .empty
    | c :: _ =>
        if t = ("0" : Text) then .ok 0
        else match Text.dropStart? "0b" t, Text.dropStart? "0x" t with
          | some ds, _ => numeral 2 ds
          | _, some ds => numeral 16 ds
          | none, none =>
              if c = '0'.toNat then numeral 8 t
              else if t.contains ':'.toNat then
                ((Text.splitOn ':'.toNat t).mapM (numeral 10)).map sexagesimal
              else numeral 10 t
  .ok (.int (if negative then -n else n))

/-- The datum that a text writes. -/
def floatNumeral (t : Text) : Except Fault Binary64 :=
  match Binary64.ofText? t with
  | some x => .ok x
  | none => .error (.value (("could not convert string to float: " : Text) ++ Text.quoted t))

/-- What is said of an integer that no datum comes near. -/
def hugeIntegerMessage : Text := "int too large to convert to float"

/-- The sum of parts in base sixty, the least significant one first. A place that no datum comes near is a
fault. -/
def sexagesimalSum : (base : Int) → (sum : Binary64) → List Binary64 → Except Fault Binary64
  | _, sum, [] => .ok sum
  | base, sum, x :: xs =>
      let place := Binary64.ofInt base
      if place.isFinite then sexagesimalSum (base * 60) (sum.add (x.mul place)) xs
      else .error (.range hugeIntegerMessage)

/-- A number with a point. -/
def floatValue (t : Text) : Except Fault Value := do
  let t := Text.lower (withoutUnderscores t)
  if t.isEmpty then .error .empty
  let (negative, t) := Text.takeSign t
  let x ←
    if t = (".inf" : Text) then .ok (Binary64.infinity false)
    else if t = (".nan" : Text) then .ok Binary64.nan
    else if t.contains ':'.toNat then do
      let parts ← (Text.splitOn ':'.toNat t).mapM floatNumeral
      sexagesimalSum 1 (Binary64.zero false) parts.reverse
    else floatNumeral t
  .ok (.float (if negative && !x.isNaN then x.neg else x))

/-- A truth value, in any letter case. -/
def boolValue (t : Text) : Except Fault Value :=
  let w := Text.lower t
  if (["yes", "true", "on"] : List Text).contains w then .ok (.bool true)
  else if (["no", "false", "off"] : List Text).contains w then .ok (.bool false)
  else .error (.word w)

/-- The number of a text of decimal digits. -/
def digitsValue (t : Text) : Nat := Text.valueOf 10 (t.filterMap Text.digit?)

/-- A fault of the calendar as a fault of the stream. -/
def calendar {α : Type} (r : Except CalendarFault α) : Except Fault α := r.mapError fun f => .value f.message

/-- The offset from universal time that a zone names, in seconds. -/
def zoneOffset : Option (CodePoint × Text × Text) → Int
  | none => 0
  | some (sign, hours, minutes) =>
      let seconds : Int := (digitsValue hours * 60 + digitsValue minutes) * 60
      if sign = '-'.toNat then -seconds else seconds

/-- A date, or a date with a time of day. Of the fraction of a second six digits count. -/
def timestampValue (t : Text) : Except Fault Value :=
  match Tag.stamp? (Tag.withoutFinalFeed t) with
  | none => .error .unmatched
  | some s =>
      let date : Date := ⟨digitsValue s.year, digitsValue s.month, digitsValue s.day⟩
      match s.clock with
      | none => do
          calendar date.check
          .ok (.date date)
      | some (hour, minute, second, fraction) => do
          let micro := digitsValue (Text.padRight 6 '0'.toNat (fraction.take 6))
          let clock : Clock := ⟨digitsValue hour, digitsValue minute, digitsValue second, micro⟩
          let offset := s.zone.map zoneOffset
          calendar (checkOffset (offset.getD 0))
          calendar date.check
          calendar clock.check
          .ok (.moment ⟨date, clock, offset⟩)

/-- Bytes, spelled in ASCII. -/
def binaryValue (t : Text) : Except Fault Value :=
  if t.any (0x80 ≤ ·) then malformed
  else match Base64.decode? t with
    | some bytes => .ok (.bytes bytes)
    | none => malformed

/-- The value of a text with the tag of a scalar. -/
def scalarValue : Tag → Text → Except Fault Value
  | .null, _ => .ok .null
  | .bool, t => boolValue t
  | .int, t => intValue t
  | .float, t => floatValue t
  | .binary, t => binaryValue t
  | .timestamp, t => timestampValue t
  | .str, t => .ok (.str t)
  | _, _ => malformed

end StepForge.Yaml
