import StepForge.Text.Basic

/-!
# `StepForge.Yaml.Cursor` — a place in a YAML stream

Tokens are found by looking a few code points ahead and moving on. A place knows its line and column,
since indentation is structure. Nothing stands behind the end of a stream, which reads as code point
zero; the stream itself never holds it.

## Contents
- `isBreak`, `isBreakOrEnd`, `isBlankOrEnd`, `isSpaceOrEnd` — what ends lines and words.
- `Fault` — why a stream has no value.
- `Cursor`, `peek`, `step`, `skip`, `takeWhile` — looking and moving.
- `lineBreak` — a line break, normalised.
-/

namespace StepForge.Yaml

/-- Why a YAML text has no value. -/
inductive Fault where
  /-- The text or its structure is not YAML. -/
  | malformed
  /-- A scalar is not what its tag says, with the reason. -/
  | value (message : Text)
  /-- An escape names no code point, with the reason. -/
  | range (message : Text)
  /-- A word is no truth value. -/
  | word (w : Text)
  /-- A number has no characters. -/
  | empty
  /-- A timestamp has none of the forms. -/
  | unmatched
  /-- A timestamp is not written as a scalar. -/
  | composite
  deriving DecidableEq

/-- Line feed, carriage return, next line, line separator and paragraph separator. -/
def isBreak (c : CodePoint) : Bool := c = 10 || c = 13 || c = 0x85 || c = 0x2028 || c = 0x2029

/-- A line break or the end. -/
def isBreakOrEnd (c : CodePoint) : Bool := c = 0 || isBreak c

/-- A space, a line break or the end. -/
def isSpaceOrEnd (c : CodePoint) : Bool := c = 32 || isBreakOrEnd c

/-- A space, a tab, a line break or the end. -/
def isBlankOrEnd (c : CodePoint) : Bool := c = 9 || isSpaceOrEnd c

/-- A place in a stream: what is left, with line, column and index. -/
structure Cursor where
  rest : Text
  line : Nat
  column : Nat
  index : Nat

namespace Cursor

/-- The start of a stream. -/
def start (t : Text) : Cursor := ⟨t, 0, 0, 0⟩

/-- The code point `k` places ahead, or zero behind the end. -/
def peek (c : Cursor) (k : Nat) : CodePoint := c.rest[k]?.getD 0

/-- The place one code point on. A carriage return in front of a line feed does not end the line, and
a byte order mark takes no column. -/
def step (c : Cursor) : Cursor :=
  match c.rest with
  | [] => c
  | x :: rest =>
      if isBreak x && !(x = 13 && rest.head? == some 10) then ⟨rest, c.line + 1, 0, c.index + 1⟩
      else ⟨rest, c.line, if x = 0xFEFF then c.column else c.column + 1, c.index + 1⟩

/-- The place `n` code points on. -/
def skip : Nat → Cursor → Cursor
  | 0, c => c
  | n + 1, c => skip n c.step

/-- The code points from here on that satisfy `p`, and the place behind them. -/
def takeWhile (c : Cursor) (p : CodePoint → Bool) : Text × Cursor :=
  let t := c.rest.takeWhile p
  (t, c.skip t.length)

/-- The place behind the code points that satisfy `p`. -/
def skipWhile (c : Cursor) (p : CodePoint → Bool) : Cursor := (c.takeWhile p).2

/-- Whether a text stands here. -/
def startsWith (c : Cursor) (t : Text) : Bool := Text.startsWith c.rest t

/-- Whether three hyphens or dots that separate documents stand here. -/
def atSeparator (c : Cursor) : Bool :=
  (c.startsWith "---" || c.startsWith "...") && isBlankOrEnd (c.peek 3)

/-- The line break here, if there is one: the separators of lines and paragraphs stay what they are and
every other break is a line feed. -/
def lineBreak (c : Cursor) : Text × Cursor :=
  let x := c.peek 0
  if x = 13 && c.peek 1 = 10 then ([10], c.skip 2)
  else if x = 0x2028 || x = 0x2029 then ([x], c.step)
  else if isBreak x then ([10], c.step)
  else ([], c)

end Cursor
end StepForge.Yaml
