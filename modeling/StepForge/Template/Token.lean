import StepForge.Text.Numeral
import StepForge.Text.Letter
import StepForge.Number.Binary64

/-!
# `StepForge.Template.Token` — a template cut into literal text, outputs and statements

Outputs stand between double braces, statements between a brace and a percent sign, comments between a
brace and a hash. A line feed directly behind a statement or comment belongs to it, and so do the
blanks between the start of its line and itself. A minus sign inside a mark extends this to all white
space on that side, a plus sign keeps it.

## Contents
- `Token`, `Piece` — what a tag is made of, and what a template is made of.
- `tokens` — the tokens of a tag up to its closing mark.
- `pieces` — the pieces of a whole template.
-/

namespace StepForge.Template

/-- Why a text is not a template. -/
inductive ReadFault where
  | unclosedTag
  | unclosedComment
  | unclosedVerbatim
  | strayCharacter
  | unbalanced
  | grammar
  | unknownStatement
  | unknownFilter
  deriving DecidableEq

/-- A token inside a tag. -/
inductive Token where
  | name (t : Text)
  | text (t : Text)
  | int (n : Nat)
  | float (x : Binary64)
  | symbol (t : Text)
  deriving DecidableEq

/-- A piece of a template. -/
inductive Piece where
  | text (t : Text)
  | output (tokens : List Token)
  | statement (tokens : List Token)
  deriving DecidableEq

/-- The kinds of tags. -/
inductive Tag where
  | output
  | statement
  | comment
  deriving DecidableEq

/-- How white space beside a mark is treated. -/
inductive Sign where
  | plain
  | strip
  | keep
  deriving DecidableEq

/-! ## Tokens -/

/-- The operators, longer ones before their parts. -/
def symbols : List Text :=
  ["//", "**", "==", "!=", ">=", "<=", "+", "-", "/", "*", "%", "~", "[", "]", "(", ")",
   "\x7b", "\x7d", ">", "<", "=", ".", ":", "|", ",", ";"]

/-- The operator at the start of a text, the longest one, with the text behind it. -/
def symbol? (t : Text) : Option (Text × Text) :=
  symbols.findSome? fun s => (Text.dropStart? s t).map fun rest => (s, rest)

/-- Whether a code point may be part of a name. -/
def isWordPart (c : CodePoint) : Bool :=
  c = '_'.toNat || Text.isLetter c || Text.isDigit c

/-- The closing bracket of an opening one. -/
def closing? (s : Text) : Option Text :=
  if s = ("(" : Text) then some ")"
  else if s = ("[" : Text) then some "]"
  else if s = ("\x7b" : Text) then some "\x7d"
  else none

/-- Whether a symbol is a closing bracket. -/
def isClosing (s : Text) : Bool := s = (")" : Text) || s = ("]" : Text) || s = ("\x7d" : Text)

/-- The code point of a one-letter escape in a string. -/
def escapeLetter? (c : CodePoint) : Option CodePoint :=
  if c = '\\'.toNat || c = '\''.toNat || c = '"'.toNat then some c
  else if c = 'n'.toNat then some 10
  else if c = 't'.toNat then some 9
  else if c = 'r'.toNat then some 13
  else if c = 'a'.toNat then some 7
  else if c = 'b'.toNat then some 8
  else if c = 'f'.toNat then some 12
  else if c = 'v'.toNat then some 11
  else none

/-- The content of a string up to its closing quote, with the text behind it. -/
def quotedText (quote : CodePoint) : Text → Option (Text × Text)
  | [] => none
  | c :: t =>
      if c = quote then some ([], t)
      else if c = '\\'.toNat then
        match t with
        | [] => none
        | e :: t =>
            match escapeLetter? e with
            | some d => (quotedText quote t).map fun (s, rest) => (d :: s, rest)
            | none => (quotedText quote t).map fun (s, rest) => (c :: e :: s, rest)
      else (quotedText quote t).map fun (s, rest) => (c :: s, rest)

/-- A number at the start of a text, with the text behind it. -/
def numeral (t : Text) : Token × Text :=
  let digits := t.takeWhile fun c => (Text.digit? c).isSome
  let rest := t.drop digits.length
  let value (ds : Text) := Text.valueOf 10 (ds.filterMap Text.digit?)
  match rest with
  | 0x2E :: rest' =>
      let places := rest'.takeWhile fun c => (Text.digit? c).isSome
      if places.isEmpty then (.int (value digits), rest)
      else (.float (Binary64.ofDecimal false (value (digits ++ places)) (-places.length)),
            rest'.drop places.length)
  | _ => (.int (value digits), rest)

/-- What stands at the start of a text if it is a closing mark: the text behind the mark and behind the
white space that the mark takes, and whether a line feed ends it. -/
def closingMark? (tag : Tag) (t : Text) : Option (Text × Bool) :=
  let stripped (rest : Text) : Text × Bool :=
    let blanks := rest.takeWhile Text.isBlank
    (rest.drop blanks.length, blanks.getLast? == some 10)
  let trimmed (rest : Text) : Text × Bool :=
    match rest with
    | 10 :: rest => (rest, true)
    | _ => (rest, false)
  match tag with
  | .output =>
      match t with
      | 0x2D :: 0x7D :: 0x7D :: rest => some (stripped rest)
      | 0x7D :: 0x7D :: rest => some (rest, false)
      | _ => none
  | .statement =>
      match t with
      | 0x2B :: 0x25 :: 0x7D :: rest => some (rest, false)
      | 0x2D :: 0x25 :: 0x7D :: rest => some (stripped rest)
      | 0x25 :: 0x7D :: rest => some (trimmed rest)
      | _ => none
  | .comment =>
      match t with
      | 0x2B :: 0x23 :: 0x7D :: rest => some (rest, false)
      | 0x2D :: 0x23 :: 0x7D :: rest => some (stripped rest)
      | 0x23 :: 0x7D :: rest => some (trimmed rest)
      | _ => none

/-- The tokens of a tag up to its closing mark, which counts only outside brackets; `expected` holds
the closing brackets still to come. -/
def tokens (tag : Tag) : Nat → List Text → Text → Except ReadFault (List Token × Text × Bool)
  | 0, _, _ => .error .unclosedTag
  | fuel + 1, expected, t =>
      match (if expected.isEmpty then closingMark? tag t else none) with
      | some (rest, lineEnd) => .ok ([], rest, lineEnd)
      | none =>
          match t with
          | [] => .error .unclosedTag
          | c :: behind =>
              if Text.isBlank c then tokens tag fuel expected behind
              else if (Text.digit? c).isSome then
                let (token, rest) := numeral t
                (tokens tag fuel expected rest).map fun (ts, r) => (token :: ts, r)
              else if isWordPart c then
                let word := t.takeWhile isWordPart
                (tokens tag fuel expected (t.drop word.length)).map fun (ts, r) => (.name word :: ts, r)
              else if c = '\''.toNat || c = '"'.toNat then
                match quotedText c behind with
                | none => .error .strayCharacter
                | some (s, rest) => (tokens tag fuel expected rest).map fun (ts, r) => (.text s :: ts, r)
              else match symbol? t with
                | none => .error .strayCharacter
                | some (s, rest) =>
                    match closing? s with
                    | some close =>
                        (tokens tag fuel (close :: expected) rest).map fun (ts, r) => (.symbol s :: ts, r)
                    | none =>
                        if isClosing s then
                          match expected with
                          | e :: expected =>
                              if e = s then
                                (tokens tag fuel expected rest).map fun (ts, r) => (.symbol s :: ts, r)
                              else .error .unbalanced
                          | [] => .error .unbalanced
                        else (tokens tag fuel expected rest).map fun (ts, r) => (.symbol s :: ts, r)

/-! ## Pieces -/

/-- The text up to the next opening mark, and the kind of the mark with the text behind it. -/
def cutAtMark : Text → Text × Option (Tag × Text)
  | [] => ([], none)
  | 0x7B :: 0x7B :: t => ([], some (.output, t))
  | 0x7B :: 0x25 :: t => ([], some (.statement, t))
  | 0x7B :: 0x23 :: t => ([], some (.comment, t))
  | c :: t =>
      let (front, found) := cutAtMark t
      (c :: front, found)

/-- The sign of an opening mark, with the text behind it. -/
def openingSign : Text → Sign × Text
  | 0x2D :: t => (.strip, t)
  | 0x2B :: t => (.keep, t)
  | t => (.plain, t)

/-- The text in front of a mark without the white space that the mark takes; `lineStart` says whether
the text begins a line. -/
def beforeMark (tag : Tag) (sign : Sign) (lineStart : Bool) (t : Text) : Text :=
  match sign with
  | .strip => Text.trimRight Text.isBlank t
  | .keep => t
  | .plain =>
      if tag = .output then t
      else
        -- The blanks between the start of the line and the mark go.
        let lastLine := t.reverse.takeWhile (· ≠ 10)
        let front := t.take (t.length - lastLine.length)
        if (!front.isEmpty || lineStart) && !lastLine.isEmpty && lastLine.all Text.isBlank then front
        else t

/-- The text behind a comment, and whether a line feed ends it. -/
def skipComment : Text → Option (Text × Bool)
  | [] => none
  | c :: t => match closingMark? .comment (c :: t) with
    | some found => some found
    | none => skipComment t

/-- The text behind a word with white space around it. -/
def word? (w t : Text) : Option Text :=
  (Text.dropStart? w (Text.trimLeft Text.isBlank t)).map (Text.trimLeft Text.isBlank)

/-- The text behind the mark that begins verbatim text, if `t`, behind its opening mark, is that mark. -/
def verbatimStart? (t : Text) : Option Text :=
  match word? "raw" t with
  | some (0x2D :: 0x25 :: 0x7D :: rest) => some (Text.trimLeft Text.isBlank rest)
  | some (0x25 :: 0x7D :: rest) => some rest
  | _ => none

/-- Verbatim text up to the mark that ends it: the text, the sign of that mark, and what is behind. -/
def verbatim? : Text → Option (Text × Sign × Text × Bool)
  | [] => none
  | c :: t =>
      let here : Option (Sign × Text × Bool) :=
        match c :: t with
        | 0x7B :: 0x25 :: t =>
            let (sign, t) := openingSign t
            match word? "endraw" t with
            | some t => (closingMark? .statement t).map fun (rest, lineEnd) => (sign, rest, lineEnd)
            | none => none
        | _ => none
      match here with
      | some (sign, rest, lineEnd) => some ([], sign, rest, lineEnd)
      | none => (verbatim? t).map fun (front, found) => (c :: front, found)

/-- Literal text as a piece; an empty one is none. -/
def textPiece (t : Text) : List Piece := if t.isEmpty then [] else [.text t]

/-- The pieces of a text; `lineStart` says whether it begins a line. -/
def piecesFrom : Nat → Bool → Text → Except ReadFault (List Piece)
  | 0, _, _ => .error .unclosedTag
  | fuel + 1, lineStart, t =>
      match cutAtMark t with
      | (front, none) => .ok (textPiece front)
      | (front, some (tag, behind)) =>
          let (sign, inside) := openingSign behind
          let front := textPiece (beforeMark tag sign lineStart front)
          match tag with
          | .comment =>
              match skipComment inside with
              | none => .error .unclosedComment
              | some (rest, lineEnd) => (piecesFrom fuel lineEnd rest).map (front ++ ·)
          | .output => do
              let (ts, rest, lineEnd) ← tokens .output (inside.length + 1) [] inside
              let more ← piecesFrom fuel lineEnd rest
              .ok (front ++ .output ts :: more)
          | .statement =>
              match verbatimStart? inside with
              | some body =>
                  match verbatim? body with
                  | none => .error .unclosedVerbatim
                  | some (t, sign, rest, lineEnd) =>
                      let t := beforeMark .statement sign false t
                      (piecesFrom fuel lineEnd rest).map fun more => front ++ textPiece t ++ more
              | none => do
                  let (ts, rest, lineEnd) ← tokens .statement (inside.length + 1) [] inside
                  let more ← piecesFrom fuel lineEnd rest
                  .ok (front ++ .statement ts :: more)

/-- The pieces of a template. -/
def pieces (t : Text) : Except ReadFault (List Piece) := piecesFrom (t.length + 1) true t

end StepForge.Template
