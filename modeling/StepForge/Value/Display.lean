import StepForge.Value.Basic
import StepForge.Number.Notation
import StepForge.Text.Numeral

/-!
# `StepForge.Value.Display` — the plain text of a value, and its text in a script

A title, a key or a version may be any value. Its plain text spells nested values out with quotes;
the text in a script is what the script language's own string conversion gives, except that numbers
keep the plain layout. The members of a set are spelled out in the order in which they came; in which order they are
spelled out elsewhere is not fixed.

## Contents
- `plainLayout` — the layout of numbers.
- `spelled`, `display` — a value spelled out, and a value as text.
- `scriptText` — a value converted to text as a script would.
- `isLong` — whether a value holds an integer that is too long for a text.
-/

namespace StepForge

/-- Numbers are positional from 0.0001 up to below 10^16 and keep a point; an exponent has a sign
and at least two digits. -/
def plainLayout : Layout where
  plainFrom := -4
  plainBelow := 16
  pointZero := true
  exponentWidth := 2
  signedZero := true
  nan := "nan"
  infinity := "inf"

namespace Value

/-- What stands for a collection inside itself. -/
def hint : Value → Text
  | map _ => "\x7b...\x7d"
  | _ => "[...]"

mutual

/-- A value inside knots of some names spelled out, texts in quotes. A collection inside itself is only
hinted at. -/
def spelledWithin (names : List Nat) : Value → Text
  | null => "None"
  | bool b => if b then "True" else "False"
  | int n => Text.ofInt n
  | float x => plainLayout.render x
  | str t => Text.quoted t
  | list xs => ("[" : Text) ++ Text.join ", " (spelledItems names xs) ++ "]"
  | map es => ("\x7b" : Text) ++ Text.join ", " (spelledEntries names es) ++ "\x7d"
  | set [] => "set()"
  | set xs => ("\x7b" : Text) ++ Text.join ", " (spelledItems names xs) ++ "\x7d"
  | date d => d.spelled
  | moment m => m.spelled
  | bytes bs => Text.quotedBytes bs
  | tuple xs =>
      ("(" : Text) ++ Text.join ", " (spelledItems names xs) ++ (if xs.length = 1 then ",)" else ")" : Text)
  | knot name body => if names.contains name then hint body else spelledWithin (name :: names) body
  | again _ mapping => if mapping then "\x7b...\x7d" else "[...]"

/-- The values of a list, each spelled out. -/
def spelledItems (names : List Nat) : List Value → List Text
  | [] => []
  | x :: xs => spelledWithin names x :: spelledItems names xs

/-- The entries of a mapping, each spelled out with a colon. -/
def spelledEntries (names : List Nat) : List (Value × Value) → List Text
  | [] => []
  | (k, v) :: es =>
      (spelledWithin names k ++ (": " : Text) ++ spelledWithin names v) :: spelledEntries names es

end

/-- A value spelled out, texts in quotes. -/
def spelled (v : Value) : Text := spelledWithin [] v

/-- The plain text of a value: a text is itself, dates have their written form, and all else is
spelled out. -/
def display : Value → Text
  | str t => t
  | date d => d.text
  | moment m => m.text
  | v => v.spelled

mutual

/-- The text of a value in a script, if there is one (`Value.scriptFault?`). Null is undefined, an integral number
has no point, the items of a list are joined by commas with null items empty, and a mapping has a fixed text. -/
def scriptText : Value → Text
  | null => "undefined"
  | bool b => if b then "true" else "false"
  | float x =>
      if x.isNaN then "NaN"
      else if !x.isFinite then (if x.negative then "-Infinity" else "Infinity")
      else match x.toInt? with
        | some n => Text.ofInt n
        | none => plainLayout.render x
  | list xs => Text.join "," (scriptItems xs)
  | tuple xs => Text.join "," (scriptItems xs)
  | map _ | again _ true => "[object Object]"
  | knot _ body => scriptText body
  | v => v.display

/-- The texts of the items of a list in a script. -/
def scriptItems : List Value → List Text
  | [] => []
  | null :: xs => [] :: scriptItems xs
  | x :: xs => scriptText x :: scriptItems xs

end

/-- The text of a value in a script, between single quotes and without escapes. -/
def scriptQuoted (v : Value) : Text := ("'" : Text) ++ v.scriptText ++ "'"

/-! ## Long integers -/

mutual

/-- Whether a value holds an integer with more digits than a text may have. -/
def isLong : Value → Bool
  | int n => Text.isLongNumber n.natAbs
  | list xs => anyLong xs
  | map es => anyLongEntry es
  | set xs => anyLong xs
  | tuple xs => anyLong xs
  | knot _ body => isLong body
  | _ => false

/-- Whether one of some values does. -/
def anyLong : List Value → Bool
  | [] => false
  | x :: xs => isLong x || anyLong xs

/-- Whether a key or value of some entries does. -/
def anyLongEntry : List (Value × Value) → Bool
  | [] => false
  | (k, v) :: es => isLong k || isLong v || anyLongEntry es

end

end Value
end StepForge
