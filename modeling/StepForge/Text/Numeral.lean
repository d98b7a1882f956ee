import StepForge.Text.Quoted
import StepForge.Text.Run

/-!
# `StepForge.Text.Numeral` — decimal digits of all scripts

The decimal digits of Unicode 14.0 and the white space that may stand around a numeral.

## Contents
- `decimalDigit?` — the value of a decimal digit of any script.
- `isBlank` — white space, separators included.
- `numeralLimit`, `isLongNumber` — how long a decimal integer may be.
- `NumeralFault`, `integerOf` — signed numerals of a base, with single underscores between digits.
-/

namespace StepForge.Text

/-- The zeros of the decimal digit series; the nine digits of a series follow its zero. -/
def digitZeros : List Nat :=
  [48, 1632, 1776, 1984, 2406, 2534, 2662, 2790, 2918, 3046, 3174, 3302, 3430, 3558, 3664, 3792,
   3872, 4160, 4240, 6112, 6160, 6470, 6608, 6784, 6800, 6992, 7088, 7232, 7248, 42528, 43216,
   43264, 43472, 43504, 43600, 44016, 65296, 66720, 68912, 69734, 69872, 69942, 70096, 70384, 70736,
   70864, 71248, 71360, 71472, 71904, 72016, 72784, 73040, 73120, 92768, 92864, 93008, 120782,
   120792, 120802, 120812, 120822, 123200, 123632, 125264, 130032]

/-- White space, with the information separators. -/
def blankRuns : List Run :=
  [⟨9, 13, 1⟩, ⟨28, 32, 1⟩, ⟨133, 133, 1⟩, ⟨160, 160, 1⟩, ⟨5760, 5760, 1⟩, ⟨8192, 8202, 1⟩,
   ⟨8232, 8233, 1⟩, ⟨8239, 8239, 1⟩, ⟨8287, 8287, 1⟩, ⟨12288, 12288, 1⟩]

/-- The value of a decimal digit of any script. -/
def decimalDigit? (c : CodePoint) : Option Nat :=
  (digitZeros.find? fun z => z ≤ c && c ≤ z + 9).map (c - ·)

/-- Whether the code point is white space or an information separator. -/
def isBlank (c : CodePoint) : Bool := inRuns blankRuns c

/-- The value of a digit below a base: a decimal digit of any script, or an ASCII letter from ten on. -/
def digitBelow? (base : Nat) (c : CodePoint) : Option Nat :=
  let value := match decimalDigit? c with
    | some d => some d
    | none =>
        if 97 ≤ c && c ≤ 122 then some (c - 87) else if 65 ≤ c && c ≤ 90 then some (c - 55) else none
  value.filter (· < base)

/-- The values of the digits at the start of a text, with single underscores between them, and the text
behind them. -/
def groupedDigits? (base : Nat) : (afterDigit : Bool) → Text → Option (List Nat × Text)
  | afterDigit, [] => if afterDigit then some ([], []) else none
  | afterDigit, c :: t =>
      match digitBelow? base c with
      | some d => (groupedDigits? base true t).map fun (ds, t) => (d :: ds, t)
      | none =>
          if !afterDigit then none
          else if c = '_'.toNat then groupedDigits? base false t
          else some ([], c :: t)

/-- The letter that may stand behind a zero in front of the digits of a base. -/
def baseLetter? (base : Nat) : Option CodePoint :=
  ([(2, 'b'.toNat), (8, 'o'.toNat), (16, 'x'.toNat)] : List (Nat × Nat)).lookup base

/-- The digits of a numeral without the mark of the base, behind which an underscore may stand. -/
def withoutBaseMark (base : Nat) (t : Text) : Text :=
  match t, baseLetter? base with
  | z :: x :: t, some letter =>
      if decimalDigit? z = some 0 && (x = letter || x + 32 = letter) then
        match t with
        | c :: rest => if c = '_'.toNat then rest else t
        | [] => t
      else z :: x :: t
  | t, _ => t

/-- The sign in front of a text, if there is one, with the text behind it. -/
def takeSign : Text → Bool × Text
  | c :: t =>
      if c = '-'.toNat then (true, t) else if c = '+'.toNat then (false, t) else (false, c :: t)
  | [] => (false, [])

/-- The largest number of digits that a decimal integer may have. -/
def numeralLimit : Nat := 4300

/-- Whether a number has more decimal digits than that. -/
def isLongNumber (n : Nat) : Bool := numeralLimit < (ofNat n).length

/-- What is said of a decimal integer with too many digits. -/
def longNumeralMessage (digits : Nat) : Text :=
  ("Exceeds the limit (" : Text) ++ ofNat numeralLimit
    ++ " digits) for integer string conversion: value has " ++ ofNat digits
    ++ " digits; use sys.set_int_max_str_digits() to increase the limit"

/-- Why a text is no integer. -/
inductive NumeralFault where
  | malformed (base : Nat) (t : Text)
  | long (digits : Nat)
  deriving DecidableEq

/-- How much of a quoted text is shown that is no integer. -/
def shownQuote : Nat := 200

/-- The text of a fault. -/
def NumeralFault.message : NumeralFault → Text
  | malformed base t =>
      ("invalid literal for int() with base " : Text) ++ ofNat base ++ ": " ++ (quoted t).take shownQuote
  | long digits => longNumeralMessage digits

/-- The integer of a numeral of a base: white space around, an optional sign, an optional mark of the
base, and digits with single underscores between. Too many decimal digits are a fault before anything
that stands behind them. -/
def integerOf (base : Nat) (t : Text) : Except NumeralFault Int :=
  let (negative, digits) := takeSign (trim isBlank t)
  match groupedDigits? base false (withoutBaseMark base digits) with
  | none => .error (.malformed base t)
  | some (ds, rest) =>
      if base = 10 && numeralLimit < ds.length then .error (.long ds.length)
      else if !rest.isEmpty then .error (.malformed base t)
      else .ok (if negative then -(valueOf base ds : Int) else (valueOf base ds : Int))

end StepForge.Text
