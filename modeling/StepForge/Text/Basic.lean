/-!
# `StepForge.Text.Basic` — texts as lists of code points

Everything the library reads, names or writes is a list of code points. A surrogate is an ordinary
code point here: an escape in a definition may spell one alone, and only writing a file refuses it.

## Contents
- **Literals.** `Text.ofString` and the coercion from `String`.
- **Numerals.** `Text.ofNat`, `Text.ofInt`, and `Text.hex` with a fixed number of digits.
- **Cutting and joining.** `join`, `splitOn`, `startsWith`, `replaceAll`, `trim`.
- **Order.** `Text.before` and `Text.sort` by code point.
-/

namespace StepForge

/-- A Unicode code point, surrogates included. -/
abbrev CodePoint := Nat

/-- A text is the list of its code points; lengths and positions count code points. -/
abbrev Text := List CodePoint

namespace Text

/-! ## Literals -/

/-- The code points of a string. -/
def ofString (s : String) : Text := s.toList.map Char.toNat

instance : Coe String Text := ⟨ofString⟩

/-- The string of a text; a surrogate, which no string can hold, becomes the replacement character. -/
def toString (t : Text) : String :=
  String.ofList (t.map fun c => if h : c.isValidChar then Char.ofNatAux c h else '\uFFFD')

/-! ## Numerals -/

/-- The decimal digits of a natural number. -/
def ofNat (n : Nat) : Text := (Nat.toDigits 10 n).map Char.toNat

/-- The decimal digits of an integer, with a minus sign in front of a negative one. -/
def ofInt : Int → Text
  | .ofNat n => ofNat n
  | .negSucc n => '-'.toNat :: ofNat (n + 1)

/-- The text `t` with copies of `c` in front until it is `width` long. -/
def padLeft (width : Nat) (c : CodePoint) (t : Text) : Text :=
  List.replicate (width - t.length) c ++ t

/-- The text `t` with copies of `c` behind until it is `width` long. -/
def padRight (width : Nat) (c : CodePoint) (t : Text) : Text :=
  t ++ List.replicate (width - t.length) c

/-- Lower-case hexadecimal digits of `n`, at least `width` of them. -/
def hex (width n : Nat) : Text := padLeft width '0'.toNat ((Nat.toDigits 16 n).map Char.toNat)

/-- The value of an ASCII digit. -/
def digit? (c : CodePoint) : Option Nat := if 48 ≤ c && c ≤ 57 then some (c - 48) else none

/-- The value of an ASCII hexadecimal digit, either case. -/
def hexDigit? (c : CodePoint) : Option Nat :=
  if 48 ≤ c && c ≤ 57 then some (c - 48)
  else if 97 ≤ c && c ≤ 102 then some (c - 87)
  else if 65 ≤ c && c ≤ 70 then some (c - 55)
  else none

/-- The value of a list of digit values, most significant first. -/
def valueOf (base : Nat) (digits : List Nat) : Nat := digits.foldl (fun n d => n * base + d) 0

/-! ## Cutting and joining -/

/-- The parts in order with `sep` between neighbours. -/
def join (sep : Text) : List Text → Text
  | [] => []
  | [t] => t
  | t :: ts => t ++ sep ++ join sep ts

/-- The rest of `t` behind `start`, if `t` begins with it. -/
def dropStart? : (start t : Text) → Option Text
  | [], t => some t
  | _ :: _, [] => none
  | a :: start, b :: t => if a = b then dropStart? start t else none

/-- Whether `t` begins with `start`. -/
def startsWith (t start : Text) : Bool := (dropStart? start t).isSome

/-- Whether `t` ends with `stop`. -/
def endsWith (t stop : Text) : Bool := startsWith t.reverse stop.reverse

/-- Whether `part` occurs in `t`. -/
def hasPart (part : Text) : Text → Bool
  | [] => part.isEmpty
  | c :: t => startsWith (c :: t) part || hasPart part t

/-- The pieces of `t` between the occurrences of one code point. -/
def splitOn (sep : CodePoint) : Text → List Text
  | [] => [[]]
  | c :: t =>
      if c = sep then [] :: splitOn sep t
      else match splitOn sep t with
        | [] => [[c]]
        | piece :: pieces => (c :: piece) :: pieces

/-- `t` with every occurrence of `part` replaced, left to right and without overlaps; the count says
how many code points of the occurrence just replaced are still to be skipped. -/
def replaceFrom (part new : Text) : Nat → Text → Text
  | _, [] => []
  | k + 1, _ :: t => replaceFrom part new k t
  | 0, c :: t =>
      if startsWith (c :: t) part then new ++ replaceFrom part new (part.length - 1) t
      else c :: replaceFrom part new 0 t

/-- `t` with every occurrence of the non-empty text `part` replaced by `new`. -/
def replaceAll (part new t : Text) : Text := replaceFrom part new 0 t

/-- The text without the code points that satisfy `p` at its start. -/
def trimLeft (p : CodePoint → Bool) (t : Text) : Text := t.dropWhile p

/-- The text without the code points that satisfy `p` at its end. -/
def trimRight (p : CodePoint → Bool) (t : Text) : Text := (t.reverse.dropWhile p).reverse

/-- The text without the code points that satisfy `p` at either end. -/
def trim (p : CodePoint → Bool) (t : Text) : Text := trimRight p (trimLeft p t)

/-! ## Order -/

/-- Lexicographic order by code point. -/
def before : Text → Text → Bool
  | _, [] => false
  | [], _ :: _ => true
  | a :: s, b :: t => a < b || (a == b && before s t)

/-- Puts `x` in front of the first element that comes strictly later. -/
def insertSorted {α : Type} (key : α → Text) (x : α) : List α → List α
  | [] => [x]
  | y :: ys => if before (key x) (key y) then x :: y :: ys else y :: insertSorted key x ys

/-- Ascending by the key's code points; elements with one key keep their order. -/
def sortBy {α : Type} (key : α → Text) (xs : List α) : List α :=
  xs.foldl (fun sorted x => insertSorted key x sorted) []

/-- Ascending by code point. -/
def sort (ts : List Text) : List Text := sortBy id ts

end Text
end StepForge
