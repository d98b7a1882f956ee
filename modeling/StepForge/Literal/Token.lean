import StepForge.Text.Letter
import StepForge.Text.Numeral
import StepForge.Text.Printable

/-!
# `StepForge.Literal.Token` — the tokens of a literal expression

A literal expression writes out a number, a text or a collection. Its tokens are names, numbers, texts,
operators and brackets. A fault of the spelling is a token too: it counts when it is looked at.

## Contents
- `Fault` — why a text is no expression.
- `Token`, `Lexeme` — tokens, and tokens with the number of brackets open at them.
- `numeral` — the number at the start of a text.
- `lexemes` — the tokens of a text.
-/

namespace StepForge.Literal

/-- Why a text is no expression. -/
inductive Fault where
  | misplaced
  | missingComma
  | equalsSign
  | assignment (place : Text)
  | namedAssignment (place : Text)
  | keywordAssignment
  | constantAssignment (place : Text)
  | target (of : Text)
  | missingElse
  | bareCall (name : Text)
  | starredGroup
  | doubleStarredGroup
  | starredGenerator
  | strayStar
  | starredEntry
  | missingColon
  | missingValue
  | positionalBehind (unpacking : Bool)
  | bareGenerator
  | mixedTexts
  | wideBytes
  | textEscape (letter : CodePoint) (first last : Nat)
  | bytesEscape (position : Nat)
  | indentation
  | unclosed (bracket : CodePoint)
  | unmatched (bracket : CodePoint)
  | crossed (closing opening : CodePoint)
  | unterminated (long : Bool) (line : Nat)
  | badNumber (kind : Text)
  | badDigit (digit : CodePoint) (kind : Text)
  | leadingZeros
  | longNumber (digits : Nat)
  | badCharacter (c : CodePoint)
  | tooNested
  | strayBackslash
  | endOfText
  deriving DecidableEq

/-- The hexadecimal digits of a code point in capitals, at least four of them. -/
def codeText (c : CodePoint) : Text :=
  (Text.hex 4 c).map fun d => if 97 ≤ d then d - 32 else d

/-- The long escapes of a text, by their letter, with the number of their digits. -/
def longEscapes : List (CodePoint × Nat) := [('x'.toNat, 2), ('u'.toNat, 4), ('U'.toNat, 8)]

/-- What is wrong with an escape; where there is no letter the code point that it names does not exist. -/
def escapeComplaint (letter : CodePoint) : Text :=
  match longEscapes.lookup letter with
  | some n => ("truncated \\" : Text) ++ letter :: List.replicate n 'X'.toNat ++ " escape"
  | none =>
      if letter = 'N'.toNat then "malformed \\N character escape" else "illegal Unicode character"

/-- The text of a fault. -/
def Fault.message : Fault → Text
  | misplaced => "invalid syntax"
  | missingComma => "invalid syntax. Perhaps you forgot a comma?"
  | equalsSign => "invalid syntax. Maybe you meant '==' or ':=' instead of '='?"
  | assignment place => ("cannot assign to " : Text) ++ place ++ " here. Maybe you meant '==' instead of '='?"
  | namedAssignment place => ("cannot use assignment expressions with " : Text) ++ place
  | keywordAssignment => "expression cannot contain assignment, perhaps you meant \"==\"?"
  | constantAssignment place => ("cannot assign to " : Text) ++ place
  | target of => ("cannot assign to " : Text) ++ of
  | missingElse => "expected 'else' after 'if' expression"
  | bareCall name =>
      ("Missing parentheses in call to '" : Text) ++ name ++ "'. Did you mean " ++ name ++ "(...)?"
  | starredGroup => "cannot use starred expression here"
  | doubleStarredGroup => "cannot use double starred expression here"
  | starredGenerator => "iterable unpacking cannot be used in comprehension"
  | strayStar => "Invalid star expression"
  | starredEntry => "cannot use a starred expression in a dictionary value"
  | missingColon => "':' expected after dictionary key"
  | missingValue => "expression expected after dictionary key and ':'"
  | positionalBehind unpacking =>
      ("positional argument follows keyword argument" : Text) ++ (if unpacking then " unpacking" else "" : Text)
  | bareGenerator => "Generator expression must be parenthesized"
  | mixedTexts => "cannot mix bytes and nonbytes literals"
  | wideBytes => "bytes can only contain ASCII literal characters"
  | textEscape letter first last =>
      ("(unicode error) 'unicodeescape' codec can't decode " : Text)
        ++ (if first = last then "byte 0x5c in position " else "bytes in position " : Text) ++ Text.ofNat first
        ++ (if first = last then [] else '-'.toNat :: Text.ofNat last) ++ ": " ++ escapeComplaint letter
  | bytesEscape position => ("(value error) invalid \\x escape at position " : Text) ++ Text.ofNat position
  | indentation => "unexpected indent"
  | unclosed bracket => ("'" : Text) ++ bracket :: "' was never closed"
  | unmatched bracket => ("unmatched '" : Text) ++ bracket :: "'"
  | crossed closing opening =>
      ("closing parenthesis '" : Text) ++ closing :: "' does not match opening parenthesis '"
        ++ opening :: "'"
  | unterminated long line =>
      ("unterminated " : Text) ++ (if long then "triple-quoted " else "" : Text)
        ++ "string literal (detected at line " ++ Text.ofNat line ++ ")"
  | badNumber kind => ("invalid " : Text) ++ kind ++ " literal"
  | badDigit digit kind => ("invalid digit '" : Text) ++ digit :: "' in " ++ kind ++ " literal"
  | leadingZeros =>
      ("leading zeros in decimal integer literals are not permitted; " : Text)
        ++ "use an 0o prefix for octal integers"
  | longNumber digits =>
      Text.longNumeralMessage digits
        ++ (" - Consider hexadecimal for huge integer literals to avoid decimal conversion limits." : Text)
  | badCharacter c =>
      if Text.isPrintable c then ("invalid character '" : Text) ++ c :: "' (U+" ++ codeText c ++ ")"
      else ("invalid non-printable character U+" : Text) ++ codeText c
  | tooNested => "too many nested parentheses"
  | strayBackslash => "unexpected character after line continuation character"
  | endOfText => "unexpected EOF while parsing"

/-- A token. -/
inductive Token where
  | name (t : Text)
  | number (imaginary : Bool)
  /-- A text between quotes: whether it stands for bytes, whether it holds expressions, and its fault. -/
  | text (bytes template : Bool) (fault : Option Fault)
  | op (t : Text)
  | newline
  | indent
  | finish
  | fault (f : Fault)
  deriving DecidableEq

/-- A token with the number of brackets that are open behind it. -/
structure Lexeme where
  token : Token
  level : Nat
  deriving DecidableEq

/-! ## Numbers -/

/-- A decimal digit. -/
def isDigit (c : CodePoint) : Bool := 48 ≤ c && c ≤ 57

/-- Whether a code point can be part of a name. -/
def isNamePart (c : CodePoint) : Bool :=
  isDigit c || (97 ≤ c && c ≤ 122) || (65 ≤ c && c ≤ 90) || c = '_'.toNat || 128 ≤ c

/-- The words that may stand directly behind a number, and the beginnings of others that may. -/
def wordsBehindNumber : List Text × List Text :=
  (["and", "else", "for", "not", "or"], ["if", "in", "is"])

/-- The text behind a number, which no name may touch. -/
def endNumber (kind t : Text) : Except Fault Text :=
  let (words, starts) := wordsBehindNumber
  if words.contains (t.takeWhile isNamePart) || starts.any (Text.startsWith t) then .ok t
  else match t with
    | c :: _ => if c < 128 && isNamePart c then .error (.badNumber kind) else .ok t
    | [] => .ok t

/-- The number of digits at the start of a text, single underscores between them, and the text behind
them; `after` says whether a digit stands in front. -/
def digitRun (isPart : CodePoint → Bool) : (after : Bool) → Text → Option (Nat × Text)
  | after, [] => if after then some (0, []) else none
  | after, c :: t =>
      if isPart c then (digitRun isPart true t).map fun (n, t) => (n + 1, t)
      else if !after then none
      else if c = '_'.toNat then digitRun isPart false t
      else some (0, c :: t)

/-- The rest of a number behind its exponent. -/
def endExponent (t : Text) : Except Fault (Bool × Text) :=
  match t with
  | c :: rest =>
      if c = 'j'.toNat || c = 'J'.toNat then (endNumber "imaginary" rest).map fun t => (true, t)
      else (endNumber "decimal" t).map fun t => (false, t)
  | [] => .ok (false, [])

/-- The rest of a number behind its places: an exponent, if one is written. -/
def exponent (t : Text) : Except Fault (Bool × Text) :=
  match t with
  | e :: rest =>
      if e = 'e'.toNat || e = 'E'.toNat then
        match rest with
        | s :: digits =>
            if s = '-'.toNat || s = '+'.toNat then
              match digitRun isDigit false digits with
              | some (_, t) => endExponent t
              | none => .error (.badNumber "decimal")
            else if isDigit s then
              match digitRun isDigit false rest with
              | some (_, t) => endExponent t
              | none => .error (.badNumber "decimal")
            else (endNumber "decimal" t).map fun t => (false, t)
        | [] => (endNumber "decimal" t).map fun t => (false, t)
      else endExponent t
  | [] => .ok (false, [])

/-- The rest of a number behind its point. -/
def fraction (t : Text) : Except Fault (Bool × Text) :=
  match t with
  | c :: _ =>
      if isDigit c then
        match digitRun isDigit false t with
        | some (_, t) => exponent t
        | none => .error (.badNumber "decimal")
      else exponent t
  | [] => .ok (false, [])

/-- The rest of a number behind its whole part, which is an integer if nothing more is written. -/
def behindWhole (whole : Except Fault Unit) (t : Text) : Except Fault (Bool × Text) :=
  match t with
  | c :: rest =>
      if c = '.'.toNat then fraction rest
      else if c = 'e'.toNat || c = 'E'.toNat then do
        let (imaginary, t) ← exponent t
        -- An `e` that begins the next word is no exponent.
        if t.length = rest.length + 1 then whole
        pure (imaginary, t)
      else if c = 'j'.toNat || c = 'J'.toNat then endExponent t
      else do
        whole
        (endNumber "decimal" t).map fun t => (false, t)
  | [] => do
      whole
      pure (false, [])

/-- The bases that a letter behind a zero marks. -/
def bases : List (CodePoint × Nat × Text) :=
  [('x'.toNat, 16, "hexadecimal"), ('o'.toNat, 8, "octal"), ('b'.toNat, 2, "binary")]

/-- A number of a base behind its mark. An underscore may stand in front of its digits. -/
def marked (base : Nat) (kind t : Text) : Except Fault Text :=
  let isPart := fun c => (Text.hexDigit? c).any (· < base)
  let stray := fun (t : Text) => match t with
    | c :: _ => if isDigit c && base < 10 then Fault.badDigit c kind else .badNumber kind
    | [] => .badNumber kind
  match t with
  | [] => .error (.badNumber kind)
  | c :: rest =>
      let t := if c = '_'.toNat then rest else t
      match digitRun isPart false t with
      | some (_, behind) => match behind with
          | d :: _ => if isDigit d && base < 10 then .error (.badDigit d kind) else endNumber kind behind
          | [] => .ok []
      -- The digit that is missing stands behind the last underscore.
      | none => .error (stray ((t.dropWhile fun c => isPart c || c = '_'.toNat)))

/-- A number at the start of a text: whether it is imaginary, and the text behind it. -/
def numeral (t : Text) : Except Fault (Bool × Text) :=
  match t with
  | 0x30 :: c :: rest =>
      match bases.lookup (if c < 97 then c + 32 else c) with
      | some (base, kind) => (marked base kind rest).map fun t => (false, t)
      | none => match digitRun isDigit false t with
        | none => .error (.badNumber "decimal")
        | some (_, behind) =>
            let digits := t.take (t.length - behind.length)
            let zero := digits.all fun c => c = 48 || c = '_'.toNat
            behindWhole (if zero then .ok () else .error .leadingZeros) behind
  | t => match digitRun isDigit false t with
    | none => .error (.badNumber "decimal")
    | some (n, behind) =>
        behindWhole (if Text.numeralLimit < n then .error (.longNumber n) else .ok ()) behind

/-! ## Tokens -/

/-- The operators of more than one sign, longer ones before their parts. -/
def operators : List Text :=
  ["...", "**=", "//=", ">>=", "<<=", "!=", "->", ":=", "==", "<=", ">=", "<<", ">>", "**", "//", "<>",
   "+=", "-=", "*=", "/=", "%=", "&=", "|=", "^=", "@="]

/-- The letters that may stand in front of a quote. -/
def textMarks : List Text := ["", "b", "u", "r", "f", "br", "rb", "fr", "rf"]

/-- The letters of ASCII in lower case. -/
def lowerAscii (t : Text) : Text := t.map fun c => if 65 ≤ c && c ≤ 90 then c + 32 else c

/-- The room that a code point takes where escapes are undone: all but ASCII is an escape there. -/
def escapedRoom (c : CodePoint) : Nat := if c < 128 then 1 else 10

/-- The fault of the first escape that is none in a text that begins at a position; the count says how many
code points belong to an escape already found. -/
def escapeFaultFrom : (taken : Nat) → (position : Nat) → Text → Option Fault
  | _, _, [] => none
  | taken + 1, position, c :: t => escapeFaultFrom taken (position + escapedRoom c) t
  | 0, position, c :: t =>
      if c ≠ '\\'.toNat then escapeFaultFrom 0 (position + escapedRoom c) t
      else match t with
        | [] => none
        | e :: rest =>
            match longEscapes.lookup e with
            | some n =>
                let digits := (rest.take n).takeWhile fun c => (Text.hexDigit? c).isSome
                let last := position + 1 + digits.length
                if digits.length < n then some (.textEscape e position last)
                else if 0x110000 ≤ Text.valueOf 16 (digits.filterMap Text.hexDigit?) then
                  some (.textEscape 0 position last)
                else escapeFaultFrom 1 (position + 1) t
            | none =>
                if e = 'N'.toNat then
                  let name := rest.takeWhile (· ≠ 0x7D)
                  if rest.head? = some 0x7B && 1 < name.length && name.length < rest.length then
                    escapeFaultFrom 1 (position + 1) t
                  else if rest.head? = some 0x7B then
                    some (.textEscape e position
                      (position + 1 + (name.map escapedRoom).foldr Nat.add 0
                        + (if name.length < rest.length then 1 else 0)))
                  else some (.textEscape e position (position + 1))
                else escapeFaultFrom 1 (position + (if e < 128 then 1 else 6)) t

/-- The fault of bytes that begin at a position, of which only ASCII can be written out. -/
def bytesFaultFrom : (taken : Nat) → (position : Nat) → Text → Option Fault
  | _, _, [] => none
  | taken + 1, position, _ :: t => bytesFaultFrom taken (position + 1) t
  | 0, position, c :: t =>
      if c ≠ '\\'.toNat then bytesFaultFrom 0 (position + 1) t
      else match t with
        | [] => none
        | e :: rest =>
            if e = 'x'.toNat && !(rest.length ≥ 2 && (rest.take 2).all fun c => (Text.hexDigit? c).isSome) then
              some (.bytesEscape position)
            else bytesFaultFrom 1 (position + 1) t

/-- The fault of what stands between quotes behind a mark. -/
def contentFault (mark content : Text) : Option Fault :=
  let raw := mark.contains 'r'.toNat
  if mark.contains 'b'.toNat then
    if content.any (128 ≤ ·) then some .wideBytes else if raw then none else bytesFaultFrom 0 0 content
  else if raw || mark.contains 'f'.toNat then none
  else escapeFaultFrom 0 0 content

/-- The text behind a text between quotes, or nothing if it does not end on its line. -/
def behindQuote (quote : CodePoint) : Text → Option Text
  | [] => none
  | c :: t =>
      if c = quote then some t
      else if c = 10 then none
      else if c = '\\'.toNat then
        match t with
        | _ :: t => behindQuote quote t
        | [] => none
      else behindQuote quote t

/-- The text behind a text between three quotes on either side. -/
def behindLongQuote (quote : CodePoint) : Text → Option Text
  | [] => none
  | c :: t =>
      if c = quote && t.take 2 = [quote, quote] then some (t.drop 2)
      else if c = '\\'.toNat then
        match t with
        | _ :: t => behindLongQuote quote t
        | [] => none
      else behindLongQuote quote t

/-- The number of line feeds of a text. -/
def lineCount (t : Text) : Nat := t.count 10

/-- The text behind the quote that is opened at the start of a text. -/
def quotedRest (line : Nat) (quote : CodePoint) (t : Text) : Except Fault Text :=
  if t.take 2 = [quote, quote] then
    match behindLongQuote quote (t.drop 2) with
    | some t => .ok t
    | none => .error (.unterminated true (line + lineCount t))
  else match behindQuote quote t with
    | some t => .ok t
    | none => .error (.unterminated false line)

/-- The closing bracket of an opening one. -/
def closing? (c : CodePoint) : Option CodePoint :=
  ([('('.toNat, ')'.toNat), ('['.toNat, ']'.toNat), (0x7B, 0x7D)] : List (Nat × Nat)).lookup c

/-- A closing bracket. -/
def isClosing (c : CodePoint) : Bool := c = ')'.toNat || c = ']'.toNat || c = 0x7D

/-- The first code point that no name can hold. -/
def badNamePart? (t : Text) : Option CodePoint :=
  t.find? fun c => 128 ≤ c && !(Text.isLetter c || (Text.decimalDigit? c).isSome)

/-- How deep brackets may be nested. -/
def nestingLimit : Nat := 200

/-- A blank, a tab or a form feed. -/
def isGap (c : CodePoint) : Bool := c = 32 || c = 9 || c = 12

/-- The tokens of a text behind others. `opened` holds the open brackets, the latest in front, and
`fresh` says whether a line begins outside of brackets. -/
def lexemesFrom : Nat → (opened : List CodePoint) → (line : Nat) → (fresh : Bool) → Text → List Lexeme
  | 0, opened, _, _, _ => [⟨.finish, opened.length⟩]
  | fuel + 1, opened, line, fresh, t =>
      let level := opened.length
      let stop := fun (f : Fault) => [(⟨.fault f, level⟩ : Lexeme)]
      let rest := t.dropWhile isGap
      match rest with
      | [] => match opened with
        | bracket :: _ => stop (.unclosed bracket)
        | [] => if fresh then [⟨.finish, 0⟩] else [⟨.newline, 0⟩, ⟨.finish, 0⟩]
      | c :: behind =>
          if c = '#'.toNat then lexemesFrom fuel opened line fresh (behind.dropWhile (· ≠ 10))
          else if c = 10 then
            let more := lexemesFrom fuel opened (line + 1) opened.isEmpty behind
            if fresh || !opened.isEmpty then more else ⟨.newline, 0⟩ :: more
          else if fresh && rest.length < t.length then
            ⟨.indent, 0⟩ :: lexemesFrom fuel opened line false rest
          else if isDigit c || (c = '.'.toNat && behind.head?.any isDigit) then
            match (if isDigit c then numeral rest else fraction behind) with
            | .ok (imaginary, t) => ⟨.number imaginary, level⟩ :: lexemesFrom fuel opened line false t
            | .error f => stop f
          else if c = '\''.toNat || c = '"'.toNat || isNamePart c then
            let word := rest.takeWhile isNamePart
            let mark := lowerAscii word
            match rest.drop word.length with
            | q :: t =>
                if (q = '\''.toNat || q = '"'.toNat) && textMarks.contains mark then
                  match quotedRest line q t with
                  | .ok t' =>
                      let written := t.take (t.length - t'.length)
                      let quotes := if t.take 2 = [q, q] && 2 < written.length then 3 else 1
                      let content := (written.drop (quotes - 1)).take (written.length - (2 * quotes - 1))
                      ⟨.text (mark.contains 'b'.toNat) (mark.contains 'f'.toNat) (contentFault mark content),
                        level⟩
                        :: lexemesFrom fuel opened (line + lineCount written) false t'
                  | .error f => stop f
                else match badNamePart? word with
                  | some c => stop (.badCharacter c)
                  | none => ⟨.name word, level⟩ :: lexemesFrom fuel opened line false (q :: t)
            | [] => match badNamePart? word with
              | some c => stop (.badCharacter c)
              | none => ⟨.name word, level⟩ :: lexemesFrom fuel opened line false []
          else if c = '\\'.toNat then
            match behind with
            | [] => stop .strayBackslash
            | d :: t =>
                if d ≠ 10 then stop .strayBackslash
                else if t.isEmpty then stop .endOfText
                else lexemesFrom fuel opened (line + 1) false t
          else if (closing? c).isSome then
            if nestingLimit ≤ level then stop .tooNested
            else ⟨.op [c], level + 1⟩ :: lexemesFrom fuel (c :: opened) line false behind
          else if isClosing c then
            match opened with
            | [] => stop (.unmatched c)
            | o :: opened =>
                if closing? o ≠ some c then stop (.crossed c o)
                else ⟨.op [c], opened.length⟩ :: lexemesFrom fuel opened line false behind
          else match operators.find? (Text.startsWith rest) with
            | some o => ⟨.op o, level⟩ :: lexemesFrom fuel opened line false (rest.drop o.length)
            | none =>
                if Text.isPrintable c then ⟨.op [c], level⟩ :: lexemesFrom fuel opened line false behind
                else stop (.badCharacter c)

/-- The tokens of a text. -/
def lexemes (t : Text) : List Lexeme := lexemesFrom (t.length + 1) [] 1 true (t.dropWhile isGap)

end StepForge.Literal
