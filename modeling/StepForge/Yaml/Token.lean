import StepForge.Text.Utf8
import StepForge.Text.Numeral
import StepForge.Yaml.Cursor

/-!
# `StepForge.Yaml.Token` — the tokens of a YAML stream

Structure that a stream shows by indentation becomes explicit: a collection in block style is opened
where its indentation begins and closed where it ends. A mapping key without a mark in front of it is
known for a key only when its colon is reached; until then its place among the tokens is kept.

## Contents
- `Token` — the tokens.
- Tags, anchors, directives; quoted, literal, folded and plain scalars — what a token is read from.
- `Scan` — the state between tokens: open flow collections, indentations, and possible keys.
- `tokens` — all tokens of a stream.
-/

namespace StepForge.Yaml

/-- A token. The last token of a stream is its end or the fault at which reading stopped. -/
inductive Token where
  | version (major : Nat)
  | tagHandle (handle start : Text)
  | directive
  | documentStart
  | documentEnd
  | streamEnd
  | blockSequence
  | blockMapping
  | blockEnd
  | flowSequence
  | flowSequenceEnd
  | flowMapping
  | flowMappingEnd
  | blockEntry
  | flowEntry
  | key
  | value
  | alias (name : Text)
  | anchor (name : Text)
  | tag (handle : Option Text) (suffix : Text)
  | scalar (text : Text) (plain : Bool)
  | fault (f : Fault)

/-- The fault of a stream that is not YAML. -/
def malformed {α : Type} : Except Fault α := .error .malformed

/-- Letters, digits, hyphen and underscore. -/
def isNameChar (c : CodePoint) : Bool :=
  (48 ≤ c && c ≤ 57) || (65 ≤ c && c ≤ 90) || (97 ≤ c && c ≤ 122) || c = '-'.toNat || c = '_'.toNat

/-! ## Tags, anchors and directives -/

/-- The characters of a tag that are not letters or digits. -/
def uriMarks : Text := "-;/?:@&=+$,_.!~*'()[]%"

/-- The bytes of escapes by percent signs, as far as they follow each other. -/
def uriEscapes : Nat → Cursor → Except Fault (List UInt8 × Cursor)
  | 0, c => .ok ([], c)
  | fuel + 1, c =>
      if c.peek 0 = '%'.toNat then
        match Text.hexDigit? (c.peek 1), Text.hexDigit? (c.peek 2) with
        | some a, some b =>
            (uriEscapes fuel (c.skip 3)).map fun (bytes, c) => (UInt8.ofNat (a * 16 + b) :: bytes, c)
        | _, _ => malformed
      else .ok ([], c)

/-- The characters of a tag, escapes decoded. -/
def uriParts : Nat → Cursor → Except Fault (Text × Cursor)
  | 0, c => .ok ([], c)
  | fuel + 1, c =>
      let x := c.peek 0
      if x = '%'.toNat then do
        let (bytes, c) ← uriEscapes c.rest.length c
        match Utf8.decode bytes with
        | .error _ => malformed
        | .ok t => (uriParts fuel c).map fun (more, c) => (t ++ more, c)
      else if isNameChar x || uriMarks.contains x then
        (uriParts fuel c.step).map fun (more, c) => (x :: more, c)
      else .ok ([], c)

/-- The characters of a tag, at least one. -/
def uri (c : Cursor) : Except Fault (Text × Cursor) := do
  let (t, c') ← uriParts (c.rest.length + 1) c
  if c'.index = c.index then malformed else .ok (t, c')

/-- A tag handle: an exclamation mark, or a name between two. -/
def handle (c : Cursor) : Except Fault (Text × Cursor) :=
  if c.peek 0 ≠ '!'.toNat then malformed
  else if c.peek 1 = 32 then .ok ("!", c.step)
  else
    let (name, behind) := c.step.takeWhile isNameChar
    if behind.peek 0 = '!'.toNat then .ok ("!" ++ name ++ "!", behind.step) else malformed

/-- Whether an exclamation mark stands before the next space or line break, the first code point of a
tag left aside. -/
def hasHandle (c : Cursor) : Bool :=
  (c.rest.drop 1).takeWhile (fun x => !isSpaceOrEnd x) |>.contains '!'.toNat

/-- A tag. -/
def tagToken (c : Cursor) : Except Fault (Token × Cursor) := do
  let x := c.peek 1
  let (token, c) ←
    if x = '<'.toNat then do
      let (suffix, c) ← uri (c.skip 2)
      if c.peek 0 ≠ '>'.toNat then malformed
      pure (Token.tag none suffix, c.step)
    else if isBlankOrEnd x then pure (Token.tag none "!", c.step)
    else do
      let (h, c) ← if hasHandle c then handle c else pure (("!" : Text), c.step)
      let (suffix, c) ← uri c
      pure (Token.tag (some h) suffix, c)
  if isSpaceOrEnd (c.peek 0) then .ok (token, c) else malformed

/-- The name of an alias or anchor, behind its mark. -/
def anchorName (c : Cursor) : Except Fault (Text × Cursor) :=
  let (name, behind) := c.step.takeWhile isNameChar
  let x := behind.peek 0
  if name.isEmpty then malformed
  else if isBlankOrEnd x || ("?:,]\x7d%@`" : Text).contains x then .ok (name, behind)
  else malformed

/-- A decimal number in a directive. -/
def directiveNumber (c : Cursor) : Except Fault (Nat × Cursor) :=
  let (digits, behind) := c.takeWhile fun x => (Text.digit? x).isSome
  if digits.isEmpty then malformed
  else match Text.integerOf 10 digits with
    | .ok n => .ok (n.toNat, behind)
    | .error f => .error (.value f.message)

/-- The place behind what is ignored at the end of a line: spaces, a comment and the line break. -/
def ignoredLine (c : Cursor) : Except Fault Cursor :=
  let c := c.skipWhile (· = 32)
  let c := if c.peek 0 = '#'.toNat then c.skipWhile (fun x => !isBreakOrEnd x) else c
  if isBreakOrEnd (c.peek 0) then .ok c.lineBreak.2 else malformed

/-- A directive. -/
def directiveToken (c : Cursor) : Except Fault (Token × Cursor) := do
  let (name, c) := c.step.takeWhile isNameChar
  if name.isEmpty || !isSpaceOrEnd (c.peek 0) then malformed
  let (token, c) ←
    if name = ("YAML" : Text) then do
      let (major, c) ← directiveNumber (c.skipWhile (· = 32))
      if c.peek 0 ≠ '.'.toNat then malformed
      let (_, c) ← directiveNumber c.step
      if !isSpaceOrEnd (c.peek 0) then malformed
      pure (Token.version major, c)
    else if name = ("TAG" : Text) then do
      let (h, c) ← handle (c.skipWhile (· = 32))
      if c.peek 0 ≠ 32 then malformed
      let (start, c) ← uri (c.skipWhile (· = 32))
      if !isSpaceOrEnd (c.peek 0) then malformed
      pure (Token.tagHandle h start, c)
    else pure (Token.directive, c.skipWhile (fun x => !isBreakOrEnd x))
  let c ← ignoredLine c
  .ok (token, c)

/-! ## Quoted scalars -/

/-- The code point of a one-letter escape. -/
def escapeLetter? (c : CodePoint) : Option CodePoint :=
  ([('0'.toNat, 0), ('a'.toNat, 7), ('b'.toNat, 8), ('t'.toNat, 9), (9, 9), ('n'.toNat, 10), ('v'.toNat, 11),
    ('f'.toNat, 12), ('r'.toNat, 13), ('e'.toNat, 27), (32, 32), ('"'.toNat, 34), ('\\'.toNat, 92),
    ('/'.toNat, 47), ('N'.toNat, 0x85), ('_'.toNat, 0xA0), ('L'.toNat, 0x2028), ('P'.toNat, 0x2029)]
    : List (Nat × Nat)).lookup c

/-- The number of hexadecimal digits behind the letter of a long escape. -/
def escapeDigits? (c : CodePoint) : Option Nat :=
  ([('x'.toNat, 2), ('u'.toNat, 4), ('U'.toNat, 8)] : List (Nat × Nat)).lookup c

/-- The line breaks and white space at the start of lines inside quotes, without document separators. -/
def quotedBreaks : Nat → Cursor → Except Fault (Text × Cursor)
  | 0, c => .ok ([], c)
  | fuel + 1, c =>
      if c.atSeparator then malformed
      else
        let c := c.skipWhile fun x => x = 32 || x = 9
        if isBreak (c.peek 0) then
          let (b, c) := c.lineBreak
          (quotedBreaks fuel c).map fun (more, c) => (b ++ more, c)
        else .ok ([], c)

/-- The code point that a long escape of `n` digits names. -/
def longEscape (n : Nat) (c : Cursor) : Except Fault (CodePoint × Cursor) :=
  let digits := (List.range n).filterMap fun k => Text.hexDigit? (c.peek k)
  if digits.length ≠ n then malformed
  else
    let code := Text.valueOf 16 digits
    if 0x80000000 ≤ code then .error (.range "Python int too large to convert to C int")
    else if 0x110000 ≤ code then .error (.value "chr() arg not in range(0x110000)")
    else .ok (code, c.skip n)

/-- The rest of a quoted scalar behind its opening quote. A single line break between words is a space. -/
def quotedRest (double : Bool) : Nat → Cursor → Except Fault (Text × Cursor)
  | 0, _ => malformed
  | fuel + 1, c =>
      let push (t : Text) (c : Cursor) : Except Fault (Text × Cursor) :=
        (quotedRest double fuel c).map fun (more, c) => (t ++ more, c)
      let x := c.peek 0
      if x = 0 then malformed
      else if x = 32 || x = 9 then
        let (blanks, c) := c.takeWhile fun x => x = 32 || x = 9
        -- White space in front of a line break is dropped.
        if isBreak (c.peek 0) then push [] c
        else if c.peek 0 = 0 then malformed
        else push blanks c
      else if isBreak x then do
        let (b, c) := c.lineBreak
        let (breaks, c) ← quotedBreaks (c.rest.length + 1) c
        -- A line feed alone is a space; of several the first one goes.
        push ((if b ≠ [10] then b else if breaks.isEmpty then [32] else []) ++ breaks) c
      else if double then
        if x = '"'.toNat then .ok ([], c.step)
        else if x = '\\'.toNat then
          let e := c.peek 1
          if c.rest.length < 2 then malformed
          else match escapeLetter? e with
            | some d => push [d] (c.skip 2)
            | none => match escapeDigits? e with
              | some n => do
                  let (d, c) ← longEscape n (c.skip 2)
                  push [d] c
              | none =>
                  -- An escaped line break joins two lines without a space.
                  if isBreak e then do
                    let (_, c) := c.step.lineBreak
                    let (breaks, c) ← quotedBreaks (c.rest.length + 1) c
                    push breaks c
                  else malformed
        else push [x] c.step
      else if x = '\''.toNat then
        if c.peek 1 = '\''.toNat then push [x] (c.skip 2) else .ok ([], c.step)
      else push [x] c.step

/-- A quoted scalar. -/
def quotedToken (c : Cursor) : Except Fault (Token × Cursor) :=
  (quotedRest (c.peek 0 = '"'.toNat) (c.rest.length + 1) c.step).map fun (t, c) => (.scalar t false, c)

/-! ## Literal and folded scalars -/

/-- How line breaks at the end of a block scalar are kept. -/
inductive Chomping where
  | clip
  | strip
  | keep
  deriving DecidableEq

/-- The chomping that a sign asks for. -/
def chomping? (c : CodePoint) : Option Chomping :=
  if c = '+'.toNat then some .keep else if c = '-'.toNat then some .strip else none

/-- The sign and the indentation digit behind the mark of a block scalar, in either order. -/
def blockIndicators (c : Cursor) : Except Fault (Chomping × Option Nat × Cursor) := do
  let (chomping, c) := match chomping? (c.peek 0) with
    | some ch => (some ch, c.step)
    | none => (none, c)
  let (increment, c) := match Text.digit? (c.peek 0) with
    | some d => (some d, c.step)
    | none => (none, c)
  let (chomping, c) := match chomping, increment, chomping? (c.peek 0) with
    | none, some _, some ch => (some ch, c.step)
    | chomping, _, _ => (chomping, c)
  if increment = some 0 || !isSpaceOrEnd (c.peek 0) then malformed
  .ok (chomping.getD .clip, increment, c)

/-- The place behind at most `n` spaces. -/
def skipSpaces : Nat → Cursor → Cursor
  | 0, c => c
  | n + 1, c => if c.peek 0 = 32 then skipSpaces n c.step else c

/-- The line breaks in front of a line that is indented by `indent`. -/
def blockBreaks (indent : Nat) : Nat → Cursor → Text × Cursor
  | 0, c => ([], c)
  | fuel + 1, c =>
      let c := skipSpaces (indent - c.column) c
      if isBreak (c.peek 0) then
        let (b, c) := c.lineBreak
        let (more, c) := blockBreaks indent fuel c
        (b ++ more, c)
      else ([], c)

/-- The line breaks in front of the first line that is not empty, and the deepest indentation seen. -/
def blockIndentation : Nat → Nat → Cursor → Text × Nat × Cursor
  | 0, deepest, c => ([], deepest, c)
  | fuel + 1, deepest, c =>
      let x := c.peek 0
      if x = 32 then blockIndentation fuel (max deepest c.step.column) c.step
      else if isBreak x then
        let (b, c) := c.lineBreak
        let (more, deepest, c) := blockIndentation fuel deepest c
        (b ++ more, deepest, c)
      else ([], deepest, c)

/-- The lines of a block scalar: its text up to the last line, the break behind that line, the empty
lines behind it, and the place behind them. -/
def blockLines (folded : Bool) (indent : Nat) : Nat → (breaks : Text) → Cursor →
    Text × Text × Text × Cursor
  | 0, breaks, c => ([], [], breaks, c)
  | fuel + 1, breaks, c =>
      let flush := !(c.peek 0 = 32 || c.peek 0 = 9)
      let (line, c) := c.takeWhile fun x => !isBreakOrEnd x
      let (b, c) := c.lineBreak
      let (after, c) := blockBreaks indent (c.rest.length + 1) c
      if c.column = indent && c.peek 0 ≠ 0 then
        -- Only lines that both begin at the indentation are folded into one.
        let joint : Text :=
          if folded && b = [10] && flush && !(c.peek 0 = 32 || c.peek 0 = 9) then
            (if after.isEmpty then [32] else [])
          else b
        let (more, last, empty, c) := blockLines folded indent fuel after c
        (breaks ++ line ++ joint ++ more, last, empty, c)
      else (breaks ++ line, b, after, c)

/-- A literal or folded scalar in a collection indented by `outer`, which is -1 outside of any. -/
def blockToken (folded : Bool) (outer : Int) (c : Cursor) : Except Fault (Token × Cursor) := do
  let (chomping, increment, c) ← blockIndicators c.step
  let c ← ignoredLine c
  let least := (max (outer + 1) 1).toNat
  let (indent, breaks, c) := match increment with
    | none =>
        -- Without a digit the first line that is not empty tells the indentation.
        let (breaks, deepest, c) := blockIndentation (c.rest.length + 1) 0 c
        (max least deepest, breaks, c)
    | some n =>
        let indent := least + n - 1
        let (breaks, c) := blockBreaks indent (c.rest.length + 1) c
        (indent, breaks, c)
  let (text, last, empty, c) :=
    if c.column = indent && c.peek 0 ≠ 0 then blockLines folded indent (c.rest.length + 1) breaks c
    else ([], [], breaks, c)
  let text := match chomping with
    | .strip => text
    | .clip => text ++ last
    | .keep => text ++ last ++ empty
  .ok (.scalar text false, c)

/-! ## Plain scalars -/

/-- Line breaks between the lines of a plain scalar; none, and a flag, in front of a document separator. -/
def plainBreaks : Nat → Cursor → Option Text × Cursor
  | 0, c => (some [], c)
  | fuel + 1, c =>
      let x := c.peek 0
      if x = 32 then plainBreaks fuel c.step
      else if isBreak x then
        let (b, c) := c.lineBreak
        if c.atSeparator then (none, c)
        else
          let (more, c) := plainBreaks fuel c
          (more.map (b ++ ·), c)
      else (some [], c)

/-- The white space inside a plain scalar: nothing if the scalar ends here, and whether a line ended. -/
def plainSpaces (c : Cursor) : Text × Bool × Cursor :=
  let (blanks, c) := c.takeWhile (· = 32)
  if isBreak (c.peek 0) then
    let (b, c) := c.lineBreak
    if c.atSeparator then ([], true, c)
    else match plainBreaks (c.rest.length + 1) c with
      | (none, c) => ([], true, c)
      | (some breaks, c) =>
          ((if b ≠ [10] then b else if breaks.isEmpty then [32] else []) ++ breaks, true, c)
  else (blanks, false, c)

/-- The length of the word here: up to white space, to a colon that is a mark, or in a flow collection
to a mark of that collection. -/
def plainWord (flow : Bool) : Text → Nat
  | [] => 0
  | x :: t =>
      let next := t.head?.getD 0
      if isBlankOrEnd x then 0
      else if x = ':'.toNat && (isBlankOrEnd next || (flow && (",[]\x7b\x7d" : Text).contains next)) then 0
      else if flow && (",?[]\x7b\x7d" : Text).contains x then 0
      else plainWord flow t + 1

/-- The words of a plain scalar with the white space between them, whether a key may begin behind it,
and the place behind it. -/
def plainWords (flow : Bool) (indent : Nat) :
    Nat → (spaces : Text) → (keys : Bool) → Cursor → Text × Bool × Cursor
  | 0, _, keys, c => ([], keys, c)
  | fuel + 1, spaces, keys, c =>
      -- A hash begins a comment here, since white space stands in front of it.
      let n := plainWord flow c.rest
      if c.peek 0 = '#'.toNat || n = 0 then ([], keys, c)
      else
        let word := c.rest.take n
        let (gap, lineEnd, c) := plainSpaces (c.skip n)
        if gap.isEmpty || c.peek 0 = '#'.toNat || (!flow && c.column < indent) then
          (spaces ++ word, lineEnd, c)
        else
          let (more, keys, c) := plainWords flow indent fuel gap lineEnd c
          (spaces ++ word ++ more, keys, c)

/-! ## The scan -/

/-- A place among the tokens where a key would begin. -/
structure PossibleKey where
  level : Nat
  position : Nat
  required : Bool
  index : Nat
  line : Nat
  column : Nat

/-- The state between tokens. -/
structure Scan where
  cursor : Cursor
  /-- The number of flow collections that are open. -/
  flow : Nat
  indent : Int
  indents : List Int
  keyAllowed : Bool
  keys : List PossibleKey
  /-- The tokens found, the last one in front. -/
  found : List Token
  count : Nat

namespace Scan

/-- The state at the start of a stream. -/
def start (t : Text) : Scan := ⟨Cursor.start t, 0, -1, [], true, [], [], 0⟩

/-- One more token. -/
def emit (s : Scan) (t : Token) : Scan := { s with found := t :: s.found, count := s.count + 1 }

/-- A token put in front of the one at a position. -/
def emitAt (s : Scan) (position : Nat) (t : Token) : Scan :=
  -- The latest token stands in front, so the ones behind the position come first.
  let back := s.count - position
  { s with found := s.found.take back ++ t :: s.found.drop back, count := s.count + 1 }

/-- Whether a possible key can no longer be one: its line is over or it is too long. -/
def isStale (s : Scan) (k : PossibleKey) : Bool :=
  k.line ≠ s.cursor.line || 1024 < s.cursor.index - k.index

/-- The state without keys that are no longer possible; a key that had to be one is a fault. -/
def dropStale (s : Scan) : Except Fault Scan :=
  if s.keys.any fun k => s.isStale k && k.required then malformed
  else .ok { s with keys := s.keys.filter fun k => !s.isStale k }

/-- The state without a possible key at the current level; a key that had to be one is a fault. -/
def dropKey (s : Scan) : Except Fault Scan :=
  if s.keys.any fun k => k.level = s.flow && k.required then malformed
  else .ok { s with keys := s.keys.filter fun k => k.level ≠ s.flow }

/-- The state in which a key may begin here, if keys are allowed. -/
def saveKey (s : Scan) : Except Fault Scan :=
  if s.keyAllowed then do
    let s ← s.dropKey
    let key : PossibleKey :=
      ⟨s.flow, s.count, s.flow = 0 && s.indent = s.cursor.column, s.cursor.index, s.cursor.line,
       s.cursor.column⟩
    .ok { s with keys := key :: s.keys }
  else .ok s

/-- Closes the block collections that are indented deeper than a column. -/
def unwindWithin : Nat → Int → Scan → Scan
  | 0, _, s => s
  | fuel + 1, column, s =>
      if column < s.indent then
        unwindWithin fuel column
          ({ s with indent := s.indents.head?.getD (-1), indents := s.indents.tail }.emit .blockEnd)
      else s

/-- Closes the block collections that are indented deeper than a column, outside of flow collections. -/
def unwind (s : Scan) (column : Int) : Scan :=
  if s.flow = 0 then unwindWithin (s.indents.length + 1) column s else s

/-- Opens an indentation if the column is deeper than the current one. -/
def indentTo (s : Scan) (column : Int) : Option Scan :=
  if s.indent < column then some { s with indents := s.indent :: s.indents, indent := column } else none

/-- The state at the next token: white space and comments skipped. A key may begin on a new line. -/
def toNextToken : Nat → Scan → Scan
  | 0, s => s
  | fuel + 1, s =>
      let c := s.cursor.skipWhile (· = 32)
      let c := if c.peek 0 = '#'.toNat then c.skipWhile (fun x => !isBreakOrEnd x) else c
      if isBreak (c.peek 0) then
        toNextToken fuel { s with cursor := c.lineBreak.2, keyAllowed := s.keyAllowed || s.flow = 0 }
      else { s with cursor := c }

/-- A token at a mark of `n` code points. -/
def mark (s : Scan) (n : Nat) (t : Token) : Scan := { s with cursor := s.cursor.skip n }.emit t

/-- A token that a function reads at the cursor. -/
def readToken (s : Scan) (r : Except Fault (Token × Cursor)) : Except Fault Scan :=
  r.map fun (t, c) => { s with cursor := c }.emit t

/-- The start of a flow collection, which may be a key. -/
def openFlow (s : Scan) (t : Token) : Except Fault Scan := do
  let s ← s.saveKey
  .ok ({ s with flow := s.flow + 1, keyAllowed := true }.mark 1 t)

/-- The end of a flow collection. -/
def closeFlow (s : Scan) (t : Token) : Except Fault Scan := do
  let s ← s.dropKey
  if s.flow = 0 then malformed
  .ok ({ s with flow := s.flow - 1, keyAllowed := false }.mark 1 t)

/-- The mark of an entry of a block sequence. -/
def blockEntryMark (s : Scan) : Except Fault Scan := do
  let s ←
    if s.flow = 0 then
      if !s.keyAllowed then malformed
      else pure ((s.indentTo s.cursor.column).elim s (·.emit .blockSequence))
    else pure s
  let s ← { s with keyAllowed := true }.dropKey
  .ok (s.mark 1 .blockEntry)

/-- The mark of a key. -/
def keyMark (s : Scan) : Except Fault Scan := do
  let s ←
    if s.flow = 0 then
      if !s.keyAllowed then malformed
      else pure ((s.indentTo s.cursor.column).elim s (·.emit .blockMapping))
    else pure s
  let s ← { s with keyAllowed := s.flow = 0 }.dropKey
  .ok (s.mark 1 .key)

/-- The mark of a value: what stands at a possible key is one, and the mapping may begin with it. -/
def valueMark (s : Scan) : Except Fault Scan :=
  match s.keys.find? fun k => k.level = s.flow with
  | some k =>
      -- The key was read before its colon told that it is one.
      let s := { s with keys := s.keys.filter fun k => k.level ≠ s.flow }.emitAt k.position .key
      let s :=
        if s.flow = 0 then (s.indentTo k.column).elim s (·.emitAt k.position .blockMapping) else s
      .ok ({ s with keyAllowed := false }.mark 1 .value)
  | none => do
      let s ←
        if s.flow = 0 then
          if !s.keyAllowed then malformed
          else pure ((s.indentTo s.cursor.column).elim s (·.emit .blockMapping))
        else pure s
      let s ← { s with keyAllowed := s.flow = 0 }.dropKey
      .ok (s.mark 1 .value)

/-- A plain scalar. -/
def plain (s : Scan) : Except Fault Scan := do
  let s ← s.saveKey
  let (text, keys, c) :=
    plainWords (s.flow ≠ 0) (s.indent + 1).toNat (s.cursor.rest.length + 1) [] false s.cursor
  .ok ({ s with cursor := c, keyAllowed := keys }.emit (.scalar text true))

/-- Whether a plain scalar can begin here. -/
def startsPlain (s : Scan) : Bool :=
  let x := s.cursor.peek 0
  !(isBlankOrEnd x || ("-?:,[]\x7b\x7d#&*!|>'\"%@`" : Text).contains x)
    || (!isBlankOrEnd (s.cursor.peek 1)
        && (x = '-'.toNat || (s.flow = 0 && (x = '?'.toNat || x = ':'.toNat))))

/-- A separator of documents or a directive, which closes all block collections. -/
def separate (s : Scan) : Except Fault Scan := do
  let s ← (s.unwind (-1)).dropKey
  .ok { s with keyAllowed := false }

/-- The state with a token that may be a key, read by a function. -/
def keyLike (s : Scan) (read : Cursor → Except Fault (Token × Cursor)) : Except Fault Scan := do
  let s ← s.saveKey
  { s with keyAllowed := false }.readToken (read s.cursor)

/-- The state behind the next token. -/
def next (s : Scan) : Except Fault Scan := do
  let c := s.cursor
  -- A byte order mark is passed over at the very start only.
  let s := if c.index = 0 && c.peek 0 = 0xFEFF then { s with cursor := c.step } else s
  let s := s.toNextToken (s.cursor.rest.length + 1)
  let s ← s.dropStale
  let s := s.unwind s.cursor.column
  let c := s.cursor
  let x := c.peek 0
  let wordEnd := isBlankOrEnd (c.peek 1)
  if x = 0 then do
    let s ← s.separate
    .ok (s.emit .streamEnd)
  else if x = '%'.toNat && c.column = 0 then do
    let s ← s.separate
    s.readToken (directiveToken s.cursor)
  else if c.column = 0 && c.startsWith "---" && isBlankOrEnd (c.peek 3) then do
    let s ← s.separate
    .ok (s.mark 3 .documentStart)
  else if c.column = 0 && c.startsWith "..." && isBlankOrEnd (c.peek 3) then do
    let s ← s.separate
    .ok (s.mark 3 .documentEnd)
  else if x = '['.toNat then s.openFlow .flowSequence
  else if x = '\x7b'.toNat then s.openFlow .flowMapping
  else if x = ']'.toNat then s.closeFlow .flowSequenceEnd
  else if x = '\x7d'.toNat then s.closeFlow .flowMappingEnd
  else if x = ','.toNat then do
    let s ← { s with keyAllowed := true }.dropKey
    .ok (s.mark 1 .flowEntry)
  else if x = '-'.toNat && wordEnd then s.blockEntryMark
  else if x = '?'.toNat && (s.flow ≠ 0 || wordEnd) then s.keyMark
  else if x = ':'.toNat && (s.flow ≠ 0 || wordEnd) then s.valueMark
  else if x = '*'.toNat then s.keyLike fun c => (anchorName c).map fun (n, c) => (.alias n, c)
  else if x = '&'.toNat then s.keyLike fun c => (anchorName c).map fun (n, c) => (.anchor n, c)
  else if x = '!'.toNat then s.keyLike tagToken
  else if (x = '|'.toNat || x = '>'.toNat) && s.flow = 0 then do
    let s ← { s with keyAllowed := true }.dropKey
    s.readToken (blockToken (x = '>'.toNat) s.indent s.cursor)
  else if x = '\''.toNat || x = '"'.toNat then s.keyLike quotedToken
  else if s.startsPlain then s.plain
  else malformed

/-- The tokens found within a number of steps; a fault is the last token. -/
def run : Nat → Scan → List Token
  | 0, s => (Token.fault .malformed :: s.found).reverse
  | fuel + 1, s =>
      match s.next with
      | .error f => (Token.fault f :: s.found).reverse
      | .ok s =>
          match s.found with
          | .streamEnd :: _ => s.found.reverse
          | _ => run fuel s

end Scan

/-- The tokens of a stream. Every token but the last takes at least one code point. -/
def tokens (t : Text) : List Token := Scan.run (t.length + 2) (Scan.start t)

end StepForge.Yaml
