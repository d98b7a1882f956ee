import StepForge.Console.Cells
import StepForge.Text.Numeral

/-!
# `StepForge.Console.Wrap` — texts broken into lines

A line is broken in front of a word that no longer fits. A word keeps the white space behind it; what of
it does not fit is dropped. A word that fits on no line is folded, or cut with an ellipsis.

## Contents
- `expandTabs` — tabs as blanks.
- `spacedPieces` — the words of a line with their white space.
- `Overflow`, `wrapLine`, `wrap` — lines of at most so many columns.
-/

namespace StepForge.Console

/-- The distance between tab stops. -/
def tabStop : Nat := 8

/-- The text with blanks up to the next stop for each tab; `column` is where it begins. -/
def expandFrom (column : Nat) (part : Text) : Text → Text
  | [] => part.reverse
  | c :: t =>
      if c = 9 then
        let used := column + width part.reverse + 1
        let blanks := (tabStop - used % tabStop) % tabStop + 1
        part.reverse ++ List.replicate blanks 32 ++ expandFrom (used + blanks - 1) [] t
      else expandFrom column (c :: part) t

/-- A line with blanks for tabs. -/
def expandTabs (t : Text) : Text := if t.contains 9 then expandFrom 0 [] t else t

/-- The words of a text, each with the white space behind it and the first also with that in front; a
text of white space alone has none. -/
def spacedPiecesWithin : Nat → Text → List Text
  | 0, _ => []
  | fuel + 1, t =>
      let lead := t.takeWhile Text.isBlank
      let rest := t.drop lead.length
      let word := rest.takeWhile fun c => !Text.isBlank c
      let behind := rest.drop word.length
      let gap := behind.takeWhile Text.isBlank
      if word.isEmpty then []
      else (lead ++ word ++ gap) :: spacedPiecesWithin fuel (behind.drop gap.length)

/-- The words of a text with their white space. -/
def spacedPieces (t : Text) : List Text := spacedPiecesWithin (t.length + 1) t

/-- What happens to a word that fits on no line. -/
inductive Overflow where
  | fold
  | ellipsis
  deriving DecidableEq

/-- Lines begun with a first piece, and then one for each further piece but the last, which begins the
next line. -/
def spread (line : Text) : List Text → List Text × Text
  | [] => ([], line)
  | [last] => ([line], last)
  | piece :: pieces =>
      let (lines, last) := spread piece pieces
      (line :: lines, last)

/-- The lines of words behind the beginning of a line, which takes `used` columns and at the very start
is no line yet. -/
def breakWords (columns : Nat) (overflow : Overflow) :
    (line : Option Text) → (used : Nat) → List Text → List Text
  | line, _, [] => [line.getD []]
  | line, used, w :: ws =>
      let size := width (Text.trimRight Text.isBlank w)
      if used + size ≤ columns then
        breakWords columns overflow (some (line.getD [] ++ w)) (used + width w) ws
      else if columns < size && overflow = .fold then
        -- The word begins a line of its own, and its last piece is continued.
        match line, chop columns w with
        | none, [] => breakWords columns overflow (some w) used ws
        | none, piece :: pieces =>
            let (lines, last) := spread piece pieces
            lines ++ breakWords columns overflow (some last) (width last) ws
        | some line, pieces =>
            let (lines, last) := spread line pieces
            lines ++ breakWords columns overflow (some last) (width last) ws
      else match line with
        | none => breakWords columns overflow (some w) (width w) ws
        | some line => line :: breakWords columns overflow (some w) (width w) ws

/-- A line without the white space at its end that goes beyond so many code points. -/
def dropExcess (size : Nat) (t : Text) : Text :=
  let blanks := (t.reverse.takeWhile Text.isBlank).length
  t.take (t.length - min blanks (t.length - size))

/-- A line that takes at most so many columns. -/
def truncate (columns : Nat) (overflow : Overflow) (t : Text) : Text :=
  if width t ≤ columns then t
  else match overflow with
    | .fold => fit columns t
    | .ellipsis => fit (columns - 1) t ++ [0x2026]

/-- The lines of one line of text. -/
def wrapLine (columns : Nat) (overflow : Overflow) (t : Text) : List Text :=
  let t := expandTabs t
  let lines := match spacedPieces t with
    | [] => [t]
    | words => breakWords columns overflow none 0 words
  lines.map fun l => truncate columns overflow (dropExcess columns l)

/-- The lines of a text of at most so many columns. -/
def wrap (columns : Nat) (overflow : Overflow) (t : Text) : List Text :=
  (Text.splitOn 10 t).flatMap (wrapLine columns overflow)

end StepForge.Console
