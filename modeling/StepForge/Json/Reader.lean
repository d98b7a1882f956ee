import StepForge.Value.Basic
import StepForge.Text.Numeral

/-!
# `StepForge.Json.Reader` — reading a JSON text into a value

A JSON text is read from left to right; each function takes what is left of the text and returns a
value with what is left behind it. A fault remembers how much was left where it arose, which gives
its position. Beyond the grammar, `NaN` and the infinities are numbers, an escape may spell a lone
surrogate, and of several members with one key the last value stands at the place of the first.

## Contents
- `Reason`, `Fault`, `Fault.message` — what can be wrong with a text.
- `Reader.string`, `Reader.number`, `Reader.value` — strings, numbers and values.
- `read` — a whole text.
-/

namespace StepForge.Json

/-- What is wrong at a place of a text. -/
inductive Reason where
  | value
  | name
  | colon
  | comma
  | unterminated
  | escape
  | unicodeEscape
  | control
  | extra
  | byteOrderMark
  deriving DecidableEq

/-- A fault inside the reader: a reason with the length of the text left at its place, or an integer
with too many digits. -/
inductive Failure where
  | at (reason : Reason) (left : Nat)
  | longNumeral (digits : Nat)
  deriving DecidableEq

namespace Reader

/-- Blank, tab, line feed and carriage return. -/
def isSpace (c : CodePoint) : Bool := c = 32 || c = 9 || c = 10 || c = 13

/-- The text behind white space. -/
def skipSpace (t : Text) : Text := t.dropWhile isSpace

/-- The value of four hexadecimal digits. -/
def fourDigits? (a b c d : CodePoint) : Option Nat := do
  let a ← Text.hexDigit? a
  let b ← Text.hexDigit? b
  let c ← Text.hexDigit? c
  let d ← Text.hexDigit? d
  pure (Text.valueOf 16 [a, b, c, d])

/-- The first half of a surrogate pair. -/
def isHighSurrogate (c : CodePoint) : Bool := 0xD800 ≤ c && c ≤ 0xDBFF

/-- The second half of a surrogate pair. -/
def isLowSurrogate (c : CodePoint) : Bool := 0xDC00 ≤ c && c ≤ 0xDFFF

/-- The code point of a surrogate pair. -/
def joinSurrogates (high low : CodePoint) : CodePoint := 0x10000 + (high - 0xD800) * 0x400 + (low - 0xDC00)

/-- The character of a one-letter escape. -/
def escapeLetter? (c : CodePoint) : Option CodePoint :=
  if c = '"'.toNat || c = '\\'.toNat || c = '/'.toNat then some c
  else if c = 'b'.toNat then some 8
  else if c = 'f'.toNat then some 12
  else if c = 'n'.toNat then some 10
  else if c = 'r'.toNat then some 13
  else if c = 't'.toNat then some 9
  else none

/-- Puts a code point in front of a string that was read. -/
def push (c : CodePoint) (r : Except Failure (Text × Text)) : Except Failure (Text × Text) :=
  r.map fun (s, rest) => (c :: s, rest)

/-- The code point that the four hexadecimal digits at the start of `t` spell, with the number of code
points taken; two escaped halves of a surrogate pair spell one code point. A digit must be followed by
more text, as the string has still to be closed. -/
def hexEscape (t : Text) : Except Failure (CodePoint × Nat) :=
  match t with
  | a :: b :: c :: d :: rest@(_ :: _) =>
      match fourDigits? a b c d with
      | none => .error (.at .unicodeEscape (t.length + 1))
      | some high =>
          match isHighSurrogate high, rest with
          -- A second escape counts if it spells the other half, and is left alone if not.
          | true, 0x5C :: 0x75 :: a :: b :: c :: d :: _ :: _ =>
              match fourDigits? a b c d with
              | none => .error (.at .unicodeEscape (rest.length - 1))
              | some low =>
                  if isLowSurrogate low then .ok (joinSurrogates high low, 10) else .ok (high, 4)
          | _, _ => .ok (high, 4)
  | _ => .error (.at .unicodeEscape (t.length + 1))

/-- The code point that the escape behind a backslash spells, with the number of code points taken. -/
def escape (opened : Nat) : Text → Except Failure (CodePoint × Nat)
  | [] => .error (.at .unterminated opened)
  | e :: t =>
      if e = 'u'.toNat then (hexEscape t).map fun (c, n) => (c, n + 1)
      else match escapeLetter? e with
        | some c => .ok (c, 1)
        | none => .error (.at .escape (t.length + 2))

/-- The rest of a string behind its opening quote, where `opened` was left at that quote, and the text
behind the closing quote. The count says how many code points belong to an escape already read. -/
def string (opened : Nat) : Nat → Text → Except Failure (Text × Text)
  | _, [] => .error (.at .unterminated opened)
  | k + 1, _ :: t => string opened k t
  | 0, c :: t =>
      if c = '"'.toNat then .ok ([], t)
      else if c = '\\'.toNat then
        match escape opened t with
        | .error e => .error e
        | .ok (d, n) => push d (string opened n t)
      else if c ≤ 0x1F then .error (.at .control (t.length + 1))
      else push c (string opened 0 t)

/-- Whether a code point is an ASCII digit. -/
def isDigit (c : CodePoint) : Bool := 48 ≤ c && c ≤ 57

/-- The digit values at the start of a text, and the text behind them. -/
def digits (t : Text) : List Nat × Text := ((t.takeWhile isDigit).map (· - 48), t.dropWhile isDigit)

/-- The digits of a fraction, if the text begins with a point and a digit. -/
def fraction (t : Text) : List Nat × Text :=
  match t with
  | 0x2E :: d :: rest => if isDigit d then digits (d :: rest) else ([], t)
  | _ => ([], t)

/-- The signed exponent, if the text begins with an exponent that has a digit. -/
def exponent (t : Text) : Option Int × Text :=
  match t with
  | e :: rest =>
      if e = 'e'.toNat || e = 'E'.toNat then
        let (negative, rest) := match rest with
          | 0x2D :: rest => (true, rest)
          | 0x2B :: rest => (false, rest)
          | rest => (false, rest)
        match digits rest with
        | ([], _) => (none, t)
        | (ds, rest) =>
            let n : Int := Text.valueOf 10 ds
            (some (if negative then -n else n), rest)
      else (none, t)
  | [] => (none, t)

/-- The number with the given integer digits, continued by `t`. -/
def numberFrom (negative : Bool) (whole : List Nat) (t : Text) : Except Failure (Value × Text) :=
  let (places, t) := fraction t
  let (power, t) := exponent t
  if places.isEmpty && power.isNone then
    if Text.numeralLimit < whole.length then .error (.longNumeral whole.length)
    else
      let n : Int := Text.valueOf 10 whole
      .ok (.int (if negative then -n else n), t)
  else
    .ok (.float (Binary64.ofDecimal negative (Text.valueOf 10 (whole ++ places))
      (power.getD 0 - places.length)), t)

/-- A number; a leading zero stands alone before the point. -/
def number (t : Text) : Except Failure (Value × Text) :=
  let (negative, rest) := match t with
    | 0x2D :: rest => (true, rest)
    | rest => (false, rest)
  match rest with
  | [] => .error (.at .value t.length)
  | c :: behind =>
      -- Digits behind a leading zero are left for whoever reads on.
      if c = '0'.toNat then numberFrom negative [0] behind
      else match digits rest with
        | ([], _) => .error (.at .value t.length)
        | (whole, behind) => numberFrom negative whole behind

/-- The words that are values, with their values. -/
def keywords : List (Text × Value) :=
  [("null", .null), ("true", .bool true), ("false", .bool false), ("NaN", .float Binary64.nan),
   ("Infinity", .float (.infinity false)), ("-Infinity", .float (.infinity true))]

/-- A word that is a value, at the start of a text. -/
def keyword? (t : Text) : Option (Value × Text) :=
  keywords.findSome? fun (word, v) => (Text.dropStart? word t).map fun rest => (v, rest)

mutual

/-- A value at the start of a text. -/
def value : Nat → Text → Except Failure (Value × Text)
  | 0, t => .error (.at .value t.length)
  | fuel + 1, t =>
      match t with
      | [] => .error (.at .value 0)
      | c :: rest =>
          if c = '"'.toNat then (string t.length 0 rest).map fun (s, rest) => (.str s, rest)
          else if c = '\x7b'.toNat then
            match skipSpace rest with
            | 0x7D :: rest => .ok (.map [], rest)
            | rest => (members fuel rest).map fun (es, rest) => (.map (Value.ofEntries es), rest)
          else if c = '['.toNat then
            match skipSpace rest with
            | 0x5D :: rest => .ok (.list [], rest)
            | rest => (items fuel rest).map fun (xs, rest) => (.list xs, rest)
          else match keyword? t with
            | some found => .ok found
            | none => number t

/-- The items of a list up to its closing bracket, at least one. -/
def items : Nat → Text → Except Failure (List Value × Text)
  | 0, t => .error (.at .value t.length)
  | fuel + 1, t => do
      let (x, t) ← value fuel t
      match skipSpace t with
      | 0x5D :: rest => .ok ([x], rest)
      | 0x2C :: rest =>
          let (xs, rest) ← items fuel (skipSpace rest)
          .ok (x :: xs, rest)
      | t => .error (.at .comma t.length)

/-- The members of a mapping up to its closing brace, at least one. -/
def members : Nat → Text → Except Failure (List (Value × Value) × Text)
  | 0, t => .error (.at .value t.length)
  | fuel + 1, t =>
      match t with
      | 0x22 :: rest => do
          let (name, t) ← string t.length 0 rest
          match skipSpace t with
          | 0x3A :: t => do
              let (v, t) ← value fuel (skipSpace t)
              match skipSpace t with
              | 0x7D :: rest => .ok ([(.str name, v)], rest)
              | 0x2C :: rest =>
                  let (es, rest) ← members fuel (skipSpace rest)
                  .ok ((.str name, v) :: es, rest)
              | t => .error (.at .comma t.length)
          | t => .error (.at .colon t.length)
      | t => .error (.at .name t.length)

end

end Reader

/-- A fault of a text: a reason at a position, or an integer with too many digits. -/
inductive Fault where
  | malformed (reason : Reason) (line column position : Nat)
  | longNumeral (digits : Nat)
  deriving DecidableEq

/-- The number of line feeds before a position, and the distance from the last of them. -/
def lineAndColumn (text : Text) (position : Nat) : Nat × Nat :=
  let front := text.take position
  (front.count 10 + 1, (front.reverse.takeWhile (· != 10)).length + 1)

/-- The fault of a text in which a failure arose. -/
def Failure.locate (text : Text) : Failure → Fault
  | .at reason left =>
      let position := text.length - left
      let (line, column) := lineAndColumn text position
      .malformed reason line column position
  | .longNumeral digits => .longNumeral digits

/-- One value with white space around it. -/
def readWhole (text : Text) : Except Failure Value :=
  match text with
  | 0xFEFF :: _ => .error (.at .byteOrderMark text.length)
  | _ => do
      let (v, rest) ← Reader.value (2 * text.length + 2) (Reader.skipSpace text)
      match Reader.skipSpace rest with
      | [] => .ok v
      | rest => .error (.at .extra rest.length)

/-- The value of a JSON text. -/
def read (text : Text) : Except Fault Value :=
  match readWhole text with
  | .ok v => .ok v
  | .error e => .error (e.locate text)

/-- The text of a reason. -/
def Reason.message : Reason → Text
  | .value => "Expecting value"
  | .name => "Expecting property name enclosed in double quotes"
  | .colon => "Expecting ':' delimiter"
  | .comma => "Expecting ',' delimiter"
  | .unterminated => "Unterminated string starting at"
  | .escape => "Invalid \\escape"
  | .unicodeEscape => "Invalid \\uXXXX escape"
  | .control => "Invalid control character at"
  | .extra => "Extra data"
  | .byteOrderMark => "Unexpected UTF-8 BOM (decode using utf-8-sig)"

/-- The text of a fault. -/
def Fault.message : Fault → Text
  | .malformed reason line column position =>
      reason.message ++ (": line " : Text) ++ Text.ofNat line ++ " column " ++ Text.ofNat column
        ++ " (char " ++ Text.ofNat position ++ ")"
  | .longNumeral digits => Text.longNumeralMessage digits

end StepForge.Json
