import StepForge.Text.Basic
import StepForge.Text.Printable

/-!
# `StepForge.Text.Quoted` — texts and bytes between quotes

A quoted text stands between single quotes, or between double quotes if it holds a single quote and
no double one. The quote and the backslash are escaped, and so is all that has no visible form.

## Contents
- `quoteFor` — the quote a text stands between.
- `escapeCode` — the escape of a code point without a visible form.
- `quoted`, `quotedBytes` — a text, and a string of bytes.
-/

namespace StepForge.Text

/-- Double quotes only around a text that has single quotes and no double ones. -/
def quoteFor (t : Text) : CodePoint :=
  if t.contains '\''.toNat && !t.contains '"'.toNat then '"'.toNat else '\''.toNat

/-- The shortest of the three hexadecimal escapes that holds the code point. -/
def escapeCode (c : CodePoint) : Text :=
  if c ≤ 0xFF then ("\\x" : Text) ++ hex 2 c
  else if c ≤ 0xFFFF then ("\\u" : Text) ++ hex 4 c
  else ("\\U" : Text) ++ hex 8 c

/-- One code point inside quotes, given which of the others are shown as they are. -/
def quotedPoint (shown : CodePoint → Bool) (quote c : CodePoint) : Text :=
  if c = quote || c = '\\'.toNat then ['\\'.toNat, c]
  else if c = '\n'.toNat then "\\n"
  else if c = '\r'.toNat then "\\r"
  else if c = '\t'.toNat then "\\t"
  else if shown c then [c]
  else escapeCode c

/-- A text between quotes. -/
def quoted (t : Text) : Text :=
  let q := quoteFor t
  q :: t.flatMap (quotedPoint isPrintable q) ++ [q]

/-- Bytes between quotes, behind the letter that marks them; only ASCII is shown as it is. -/
def quotedBytes (bytes : List UInt8) : Text :=
  let t := bytes.map UInt8.toNat
  let q := quoteFor t
  'b'.toNat :: q :: t.flatMap (quotedPoint (fun c => 0x20 ≤ c && c < 0x7F) q) ++ [q]

end StepForge.Text
