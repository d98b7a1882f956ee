import StepForge.Text.Basic

/-!
# `StepForge.Yaml.Tag` — the kinds of nodes

A tag says what a node is. A plain scalar without one is recognised by its form; the first of the forms
that fits decides, and a scalar of no form is a text.

## Contents
- `Tag`, `Tag.ofUri` — the tags that have a meaning.
- The forms of numbers and timestamps.
- `Tag.ofPlain` — the tag of a plain scalar.
-/

namespace StepForge.Yaml

/-- What a node is. -/
inductive Tag where
  | null
  | bool
  | int
  | float
  | binary
  | timestamp
  | omap
  | pairs
  | set
  | str
  | seq
  | map
  | merge
  | value
  /-- A tag without a meaning. -/
  | other
  deriving DecidableEq, Inhabited

namespace Tag

/-- What the tags of the standard vocabulary begin with. -/
def standard : Text := "tag:yaml.org,2002:"

/-- The names of the standard vocabulary. -/
def names : List (Text × Tag) :=
  [("null", null), ("bool", bool), ("int", int), ("float", float), ("binary", binary),
   ("timestamp", timestamp), ("omap", omap), ("pairs", pairs), ("set", set), ("str", str), ("seq", seq),
   ("map", map), ("merge", merge), ("value", value)]

/-- The tag that a text spells in full. -/
def ofUri (uri : Text) : Tag := ((Text.dropStart? standard uri).bind fun n => names.lookup n).getD other

/-! ## Forms -/

/-- A decimal digit. -/
def isDigit (c : CodePoint) : Bool := 48 ≤ c && c ≤ 57

/-- A decimal digit or an underscore. -/
def isGroupPart (c : CodePoint) : Bool := isDigit c || c = '_'.toNat

/-- The text without a sign in front. -/
def withoutSign : Text → Text
  | c :: t => if c = '-'.toNat || c = '+'.toNat then t else c :: t
  | [] => []

/-- A digit with digits and underscores behind it. -/
def isGrouped : Text → Bool
  | c :: t => isDigit c && t.all isGroupPart
  | [] => false

/-- The same, beginning with a digit other than zero. -/
def isGroupedPositive : Text → Bool
  | c :: t => isDigit c && c ≠ '0'.toNat && t.all isGroupPart
  | [] => false

/-- One digit, or two of which the first is below six. -/
def isSixtieth : Text → Bool
  | [d] => isDigit d
  | [d, e] => 48 ≤ d && d ≤ 53 && isDigit e
  | _ => false

/-- Parts between colons: the first as `leading` says, and at least one more below sixty. -/
def isSexagesimal (leading : Text → Bool) (t : Text) : Bool :=
  match Text.splitOn ':'.toNat t with
  | first :: second :: rest => leading first && (second :: rest).all isSixtieth
  | _ => false

/-- Digits of a base and underscores, at least one of them, behind two code points that mark the base. -/
def isMarked (mark : Text) (isPart : CodePoint → Bool) (t : Text) : Bool :=
  match Text.dropStart? mark t with
  | some ds => !ds.isEmpty && ds.all fun c => isPart c || c = '_'.toNat
  | none => false

/-- The form of an integer: binary, octal, decimal, hexadecimal or sexagesimal, with an optional sign. -/
def isInt (t : Text) : Bool :=
  let u := withoutSign t
  isMarked "0b" (fun c => c = 48 || c = 49) u
    || isMarked "0" (fun c => 48 ≤ c && c ≤ 55) u
    || u = ("0" : Text)
    || isGroupedPositive u
    || isMarked "0x" (fun c => (Text.hexDigit? c).isSome) u
    || isSexagesimal isGroupedPositive u

/-- An exponent, which needs a sign, or nothing. -/
def isExponent : Text → Bool
  | [] => true
  | e :: s :: ds =>
      (e = 'e'.toNat || e = 'E'.toNat) && (s = '-'.toNat || s = '+'.toNat) && !ds.isEmpty && ds.all isDigit
  | _ => false

/-- The spellings of infinity. -/
def infinities : List Text := [".inf", ".Inf", ".INF"]

/-- The spellings of what is not a number. -/
def notNumbers : List Text := [".nan", ".NaN", ".NAN"]

/-- The form of a number with a point. A sign cannot stand directly in front of the point. -/
def isFloat (t : Text) : Bool :=
  let u := withoutSign t
  let whole := u.takeWhile (· ≠ '.'.toNat)
  match u.drop whole.length with
  | [] => false
  | _ :: fraction =>
      let places := fraction.takeWhile isGroupPart
      let behind := fraction.drop places.length
      (isGrouped whole && isExponent behind)
        || (whole.isEmpty && u = t && isGrouped places && isExponent behind)
        || (isSexagesimal isGrouped whole && behind.isEmpty)
        || infinities.contains u
        || notNumbers.contains t

/-- The digits at the start of a text, at least `least` and at most `most`, and the text behind them. -/
def digitsAt? (least most : Nat) (t : Text) : Option (Text × Text) :=
  let ds := (t.take most).takeWhile isDigit
  if ds.length < least then none else some (ds, t.drop ds.length)

/-- The text behind one code point. -/
def behind? (c : CodePoint) : Text → Option Text
  | d :: t => if d = c then some t else none
  | [] => none

/-- A blank or a tab. -/
def isGap (c : CodePoint) : Bool := c = 32 || c = 9

/-- The parts of a timestamp, as written. -/
structure Stamp where
  year : Text
  month : Text
  day : Text
  /-- Hour, minute, second and fraction. -/
  clock : Option (Text × Text × Text × Text)
  /-- Nothing if no zone is written, `none` inside for universal time, else the sign, hours and minutes. -/
  zone : Option (Option (CodePoint × Text × Text))

/-- The zone at the end of a timestamp. -/
def zone? (t : Text) : Option (Option (Option (CodePoint × Text × Text))) :=
  if t.isEmpty then some none
  else match t.dropWhile isGap with
    | [] => none
    | c :: t =>
        if c = 'Z'.toNat then (if t.isEmpty then some (some none) else none)
        else if c = '-'.toNat || c = '+'.toNat then do
          let (hours, t) ← digitsAt? 1 2 t
          if t.isEmpty then some (some (some (c, hours, [])))
          else
            let t ← behind? ':'.toNat t
            let (minutes, t) ← digitsAt? 2 2 t
            if t.isEmpty then some (some (some (c, hours, minutes))) else none
        else none

/-- A timestamp: a date, then optionally a `T` or a gap, a time of day with an optional fraction, and a
zone. Month, day and hour may have one digit. -/
def stamp? (t : Text) : Option Stamp := do
  let (year, t) ← digitsAt? 4 4 t
  let t ← behind? '-'.toNat t
  let (month, t) ← digitsAt? 1 2 t
  let t ← behind? '-'.toNat t
  let (day, t) ← digitsAt? 1 2 t
  if t.isEmpty then some ⟨year, month, day, none, none⟩
  else
    let t ← match t with
      | c :: rest =>
          if c = 'T'.toNat || c = 't'.toNat then some rest
          else if isGap c then some (rest.dropWhile isGap)
          else none
      | [] => none
    let (hour, t) ← digitsAt? 1 2 t
    let t ← behind? ':'.toNat t
    let (minute, t) ← digitsAt? 2 2 t
    let t ← behind? ':'.toNat t
    let (second, t) ← digitsAt? 2 2 t
    let (fraction, t) := match t with
      | 0x2E :: rest => (rest.takeWhile isDigit, rest.dropWhile isDigit)
      | t => ([], t)
    let zone ← zone? t
    some ⟨year, month, day, some (hour, minute, second, fraction), zone⟩

/-- The form of a timestamp that needs no tag: a date alone has two digits for month and day. -/
def isTimestamp (t : Text) : Bool :=
  match stamp? t with
  | some s => s.clock.isSome || (s.month.length = 2 && s.day.length = 2)
  | none => false

/-- The spellings of the truth values. -/
def truthWords : List Text :=
  ["yes", "Yes", "YES", "no", "No", "NO", "true", "True", "TRUE", "false", "False", "FALSE",
   "on", "On", "ON", "off", "Off", "OFF"]

/-- The spellings of null. -/
def nullWords : List Text := ["~", "null", "Null", "NULL", ""]

/-- The text without a line feed at its end, which no form looks at. -/
def withoutFinalFeed (t : Text) : Text := if t.getLast? = some 10 && 1 < t.length then t.dropLast else t

/-- The tag of a plain scalar. -/
def ofPlain (t : Text) : Tag :=
  let t := withoutFinalFeed t
  if truthWords.contains t then bool
  else if isFloat t then float
  else if isInt t then int
  else if t = ("<<" : Text) then merge
  else if nullWords.contains t then null
  else if isTimestamp t then timestamp
  else if t = ("=" : Text) then value
  else if t = ("!" : Text) || t = ("&" : Text) || t = ("*" : Text) then other
  else str

end Tag
end StepForge.Yaml
