import StepForge.Console.Print

/-!
# `StepForge.Console.Summary` — a titled box with rows of keys and values

The box is as wide as the console. Its two columns are as wide as their widest cell needs; if they do
not fit side by side the wider one gives way first, and then both evenly.

## Contents
- `cellWidth`, `collapse` — the widths of the two columns.
- `rowLines` — the lines of one row.
- `lineOf` — a line of pieces.
- `titleLine` — the upper border with the title.
- `summary` — the whole box.
-/

namespace StepForge.Console

/-- The blanks on either side of a cell. -/
def cellPadding : Nat := 2

/-- The columns inside the box, between its borders and a blank on either side. -/
def innerWidth : Nat := columns - 4

/-- Whether a code point ends a line when the width of a cell is measured. -/
def endsLine (c : CodePoint) : Bool := c = 10 || (28 ≤ c && c ≤ 30) || c = 0x85 || c = 0x2028 || c = 0x2029

/-- The width that a cell needs with its padding, at most that of the box. -/
def cellWidth (t : Text) : Nat :=
  let lines := Text.splitOn 10 (t.map fun c => if endsLine c then 10 else c)
  min innerWidth ((lines.map width).foldl max 0 + 2 * cellPadding)

/-- Half of a number, the half of an odd one going to the even neighbour. -/
def halfEven (n : Nat) : Nat := if n % 4 = 3 then n / 2 + 1 else n / 2

/-- Two widths reduced to a sum of at most `limit`: the greater one down to the smaller one, then both. -/
def collapse (limit a b : Nat) : Nat × Nat :=
  let excess := a + b - limit
  -- The wider column gives up what it has more; after that both give up the same.
  let a' := if b < a then a - min excess (a - b) else a
  let b' := if a < b then b - min excess (b - a) else b
  let rest := a' + b' - limit
  (a' - halfEven rest, b' - (rest - halfEven rest))

/-- A line of a cell with its padding, or a blank one. -/
def cellLine (size : Nat) (line : Option Text) : Text :=
  let blanks := List.replicate cellPadding 32
  blanks ++ fit (size - 2 * cellPadding) (line.getD []) ++ blanks

/-- The lines of a row whose cells have the given widths, filled up to the width of the box. -/
def rowLines (sizes : Nat × Nat) (row : Text × Text) : List Text :=
  let keys := wrap (sizes.1 - 2 * cellPadding) .ellipsis row.1
  let values := wrap (sizes.2 - 2 * cellPadding) .ellipsis row.2
  (List.range (max keys.length values.length)).map fun i =>
    cellLine sizes.1 keys[i]? ++ cellLine sizes.2 values[i]?
      ++ List.replicate (innerWidth - (sizes.1 + sizes.2)) 32

/-- A horizontal border. -/
def border (n : Nat) : Text := List.replicate n 0x2500

/-- The first pieces that take no more than `limit` columns together; the piece that reaches them is cut
or filled to what is left. -/
def cropPieces : (limit : Nat) → List Text → List Text
  | _, [] => []
  | limit, piece :: pieces =>
      if width piece < limit then piece :: cropPieces (limit - width piece) pieces else [fit limit piece]

/-- Pieces that are measured each by itself, cut if they take more columns than the console has. -/
def lineOf (pieces : List Text) : Text :=
  let used := (pieces.map width).foldr Nat.add 0
  (if columns < used then cropPieces columns pieces else pieces).flatten

/-- The upper border with the title in its middle, cut if it is too long. The title is measured with a
blank on either side, and the line piece by piece. -/
def titleLine (title : Text) : Text :=
  let title := expandTabs (title.map fun c => if c = 10 then 32 else c)
  let t := 32 :: title ++ [32]
  let t := if innerWidth < width t then fit innerWidth t else t
  let space := innerWidth - width t
  let behind := t.drop 1
  lineOf
    [[0x256D, 0x2500], border (space / 2), t.take 1, behind.take title.length, behind.drop title.length,
     border (space - space / 2), [0x2500, 0x256E]]

/-- Several texts with tags, or the first fault. -/
def unfoldedAll : List Text → Except MarkupFault (List Shown)
  | [] => .ok []
  | t :: ts => do
      let s ← unfolded t
      let more ← unfoldedAll ts
      .ok (s :: more)

/-- The box with a title and rows of keys and values, all of them texts with tags. The tags of all of them
are read before any of them is shown, and the title is shown last. -/
def summary (title : Text) (items : List (Text × Text)) : Except MarkupFault Text := do
  let title ← unfolded (("[bold]" : Text) ++ title ++ "[/bold]")
  let keys ← unfoldedAll (items.map (·.1))
  let values ← unfoldedAll (items.map (·.2))
  let rows ← (keys.zip values).mapM fun (k, v) => do pure (← k.settle, ← v.settle)
  let title ← title.settle
  let sizes := collapse innerWidth ((rows.map fun r => cellWidth r.1).foldl max 0)
    ((rows.map fun r => cellWidth r.2).foldl max 0)
  let bar : CodePoint := 0x2502
  .ok (linesText
    ([titleLine title]
      ++ (rows.flatMap (rowLines sizes)).map (fun l => [bar, 32] ++ l ++ [32, bar])
      ++ [0x2570 :: border (columns - 2) ++ [0x256F]]))

end StepForge.Console
