import StepForge.Literal.Token

/-!
# `StepForge.Literal.Term` — the terms of a literal expression

Tokens are put together to a term. Where no rule fits, the tokens are read once more with an eye to
common mistakes: the first mistake that is recognised explains the fault, and otherwise the token is
just misplaced.

## Contents
- `Term`, `Term.kind` — the terms, as far as their values can matter, and the words for them.
- `Stop` — why reading stops.
- `expression` and the functions beside it — the rules, from loose to tight.
- `ofText` — the term of a whole text.
-/

namespace StepForge.Literal

/-- A term. -/
inductive Term where
  | number (imaginary : Bool)
  | text (bytes : Bool)
  /-- A truth value or the null value, by its word. -/
  | constant (word : Text)
  | ellipsis
  | name (t : Text)
  | tuple (items : List Term)
  | set (items : List Term)
  /-- Entries without a key are mappings to be unpacked. -/
  | dict (entries : List (Option Term × Term))
  /-- A number behind a plus or a minus. -/
  | signed (t : Term)
  /-- A sum or a difference. -/
  | sum (left right : Term)
  | call (f : Term) (bare : Bool)
  | starred (t : Term)
  | generator
  /-- Any other term, by the word for it. -/
  | other (kind : Text)
  deriving Inhabited

/-- The word for what a term is. -/
def Term.kind : Term → Text
  | number _ | text _ => "literal"
  | constant w => w
  | ellipsis => "ellipsis"
  | name _ => "name"
  | tuple _ => "tuple"
  | set _ => "set display"
  | dict _ => "dict literal"
  | signed _ | sum _ _ => "expression"
  | call _ _ => "function call"
  | starred _ => "starred"
  | generator => "generator expression"
  | other k => k

/-- Whether a term can be given a value. -/
def Term.isTarget : Term → Bool
  | name _ | tuple _ => true
  | other k => k = ("attribute" : Text)
  | _ => false

/-- Why reading stops: no rule fits, or a fault is recognised. -/
inductive Stop where
  | mismatch
  | fault (f : Fault)

/-- The tokens of a text. -/
abbrev Lexemes : Type := List Lexeme

/-- What is read, and the tokens behind it. -/
abbrev Reading : Type → Type := Except Stop

/-- What no rule fits. -/
def mismatch {α : Type} : Reading α := .error .mismatch

/-- What is recognised as a fault. -/
def explain {α : Type} (f : Fault) : Reading α := .error (.fault f)

/-- The next token; a fault of the spelling is raised when it is looked at. -/
def next (ts : Lexemes) : Reading Token :=
  match ts with
  | ⟨.fault f, _⟩ :: _ => explain f
  | t :: _ => .ok t.token
  | [] => .ok .finish

/-- Whether the next token is an operator. -/
def isOp (o : Text) (ts : Lexemes) : Reading Bool := do
  match ← next ts with
  | .op p => .ok (p = o)
  | _ => .ok false

/-- Whether the next token is a word. -/
def isWord (w : Text) (ts : Lexemes) : Reading Bool := do
  match ← next ts with
  | .name n => .ok (n = w)
  | _ => .ok false

/-- The words that are no names. -/
def keywords : List Text :=
  (["False", "None", "True", "and", "as", "assert", "async", "await", "break", "class", "continue", "def",
    "del", "elif", "else", "except", "finally", "for", "from", "global", "if", "import", "in", "is",
    "lambda", "nonlocal", "not", "or", "pass", "raise", "return", "try", "while", "with", "yield"]
    : List String).map Text.ofString

/-- The name here, if there is one. -/
def name? (ts : Lexemes) : Reading (Option Text) := do
  match ← next ts with
  | .name n => .ok (if keywords.contains n then none else some n)
  | _ => .ok none

/-- Whether a name stands here with an operator behind it. -/
def isNameBefore (o : Text) (ts : Lexemes) : Reading Bool := do
  match ← name? ts with
  | some _ => isOp o ts.tail
  | none => .ok false

/-- Words that are names at some places only. -/
def softKeywords : List Text := ["_", "case", "match"]

/-- The names of commands that are often written without brackets. -/
def bareCommands : List Text := ["print", "exec"]

/-- The result of a rule that may not fit. -/
def attempt {α : Type} (r : Reading α) : Reading (Option α) :=
  match r with
  | .ok x => .ok (some x)
  | .error .mismatch => .ok none
  | .error (.fault f) => .error (.fault f)

/-- The text behind an operator that has to be there. -/
def expect (o : Text) (ts : Lexemes) : Reading (Lexemes) := do
  if ← isOp o ts then .ok ts.tail else mismatch

/-- How tightly the operators between two terms bind, from loose to tight. -/
def binaryLevels : List (List Text) :=
  [["|"], ["^"], ["&"], ["<<", ">>"], ["+", "-"], ["*", "/", "//", "%", "@"]]

/-- The signs of comparisons. -/
def comparisonSigns : List Text := ["==", "!=", "<=", "<", ">=", ">"]

/-- A comparison sign here, one or two tokens long, and the tokens behind it. -/
def comparison? (ts : Lexemes) : Reading (Option (Lexemes)) := do
  match ← next ts with
  | .op o => .ok (if comparisonSigns.contains o then some ts.tail else none)
  | .name w =>
      if w = ("in" : Text) then .ok (some ts.tail)
      else if w = ("is" : Text) then
        .ok (some (if ← isWord "not" ts.tail then ts.tail.tail else ts.tail))
      else if w = ("not" : Text) then .ok (if ← isWord "in" ts.tail then some ts.tail.tail else none)
      else .ok none
  | _ => .ok none

/-- The brackets open at the last of the tokens that were read between two places. -/
def levelBehind (ts rest : Lexemes) : Nat :=
  match ts.take (ts.length - rest.length) with
  | [] => 0
  | t :: ts => ((t :: ts).getLast (by simp)).level

/-- A term made of two with an operator of a level between them. -/
def binary (o : Text) (left right : Term) : Term :=
  if o = ("+" : Text) || o = ("-" : Text) then .sum left right else .other "expression"

/-- Whether a name stands in front of a text, or a word that is a name at some places only is here. -/
def isOddStart (ts : Lexemes) : Reading Bool := do
  match ← name? ts with
  | none => .ok false
  | some n => match ← next ts.tail with
    | .text _ _ _ => .ok true
    | _ => .ok (softKeywords.contains n)

/-- The texts at the start of tokens, each with whether it is bytes, whether it holds expressions, and its
fault. -/
def textsAt : Lexemes → List (Bool × Bool × Option Fault)
  | ⟨.text bytes template fault, _⟩ :: ts => (bytes, template, fault) :: textsAt ts
  | _ => []

/-- The first fault of texts, all of which are bytes or none. -/
def textsFault (bytes : Bool) (texts : List (Bool × Bool × Option Fault)) : Option Fault :=
  texts.findSome? fun (b, _, fault) => fault.or (if b = bytes then none else some .mixedTexts)

/-- What a bracketed list of arguments holds so far. -/
structure Arguments where
  any : Bool := false
  keyword : Bool := false
  unpacking : Bool := false

mutual

/-- An expression. With `wary` mistakes are explained. -/
def expression (wary : Bool) : Nat → Lexemes → Reading (Term × Lexemes)
  | 0, _ => mismatch
  | fuel + 1, ts => do
      if ← isWord "lambda" ts then lambda wary fuel ts.tail
      else
        let (x, rest) ← disjunction wary fuel ts
        if wary then mistakes fuel ts x rest
        if !(← isWord "if" rest) then return (x, rest)
        match ← attempt (disjunction wary fuel rest.tail) with
        | none => return (x, rest)
        | some (_, behind) =>
            if !(← isWord "else" behind) then return (x, rest)
            match ← attempt (expression wary fuel behind.tail) with
            | none => return (x, rest)
            | some (_, behind) => return (.other "conditional expression", behind)

/-- The mistakes that are recognised behind the first part of an expression. -/
def mistakes : Nat → (start : Lexemes) → Term → (rest : Lexemes) → Reading Unit
  | 0, _, _, _ => .ok ()
  | fuel + 1, ts, x, rest => do
      let bare := match x with
        | .name n => bareCommands.contains n
        | _ => false
      if !(← isOddStart ts) then
        match ← attempt (expression false fuel rest) with
        | some (_, behind) =>
            if !bare && levelBehind rest behind ≠ 0 then explain .missingComma
        | none => pure ()
      if ← isWord "if" rest then
        match ← attempt (disjunction true fuel rest.tail) with
        | some (_, behind) =>
            if !(← isWord "else" behind) && !(← isOp ":" behind) then explain .missingElse
        | none => pure ()
      match ← name? ts with
      | some n =>
          if !(← isOp "(" ts.tail) then
            let behind := if ← isOp "*" ts.tail then operation true fuel binaryLevels ts.tail.tail
              else expression true fuel ts.tail
            match ← attempt behind with
            | some _ => if bareCommands.contains n then explain (.bareCall n)
            | none => pure ()
      | none => pure ()

/-- The rest of a function without a name: its parameters and its body. -/
def lambda (wary : Bool) : Nat → Lexemes → Reading (Term × Lexemes)
  | 0, _ => mismatch
  | fuel + 1, ts => do
      if ← isOp ":" ts then
        let (_, ts) ← expression wary fuel ts.tail
        return (.other "lambda", ts)
      let starred ← isOp "*" ts
      let ts := if starred || (← isOp "**" ts) then ts.tail else ts
      let ts ← match ← name? ts with
        | some _ => pure ts.tail
        | none =>
            if starred && (← isOp "," ts) then pure ts
            else if ← isOp "/" ts then pure ts.tail
            else mismatch
      let ts ← if ← isOp "=" ts then (do
          let (_, ts) ← expression wary fuel ts.tail
          pure ts)
        else pure ts
      if ← isOp "," ts then lambda wary fuel ts.tail
      else if ← isOp ":" ts then lambda wary fuel ts
      else mismatch

/-- Terms joined by `or`. -/
def disjunction (wary : Bool) : Nat → Lexemes → Reading (Term × Lexemes)
  | 0, _ => mismatch
  | fuel + 1, ts => do
      let (x, rest) ← conjunction wary fuel ts
      if !(← isWord "or" rest) then return (x, rest)
      match ← attempt (disjunction wary fuel rest.tail) with
      | some (_, rest) => return (.other "expression", rest)
      | none => return (x, rest)

/-- Terms joined by `and`. -/
def conjunction (wary : Bool) : Nat → Lexemes → Reading (Term × Lexemes)
  | 0, _ => mismatch
  | fuel + 1, ts => do
      let (x, rest) ← inversion wary fuel ts
      if !(← isWord "and" rest) then return (x, rest)
      match ← attempt (conjunction wary fuel rest.tail) with
      | some (_, rest) => return (.other "expression", rest)
      | none => return (x, rest)

/-- A comparison, with `not` in front or without. -/
def inversion (wary : Bool) : Nat → Lexemes → Reading (Term × Lexemes)
  | 0, _ => mismatch
  | fuel + 1, ts => do
      if ← isWord "not" ts then
        let (_, rest) ← inversion wary fuel ts.tail
        return (.other "expression", rest)
      let (x, rest) ← operation wary fuel binaryLevels ts
      comparisons wary fuel x rest

/-- The comparisons behind a term. -/
def comparisons (wary : Bool) : Nat → Term → Lexemes → Reading (Term × Lexemes)
  | 0, _, _ => mismatch
  | fuel + 1, x, ts => do
      match ← comparison? ts with
      | none => return (x, ts)
      | some behind => match ← attempt (operation wary fuel binaryLevels behind) with
        | none => return (x, ts)
        | some (_, rest) => comparisons wary fuel (.other "comparison") rest

/-- Terms joined by the operators of some levels. -/
def operation (wary : Bool) : Nat → List (List Text) → Lexemes → Reading (Term × Lexemes)
  | 0, _, _ => mismatch
  | fuel + 1, [], ts => factor wary fuel ts
  | fuel + 1, level :: levels, ts => do
      let (x, rest) ← operation wary fuel levels ts
      operands wary fuel level levels x rest

/-- The operands behind a term, with the operators of one level in front of them. -/
def operands (wary : Bool) :
    Nat → (level : List Text) → (levels : List (List Text)) → Term → Lexemes → Reading (Term × Lexemes)
  | 0, _, _, _, _ => mismatch
  | fuel + 1, level, levels, x, ts => do
      match ← next ts with
      | .op o =>
          if !level.contains o then return (x, ts)
          match ← attempt (operation wary fuel levels ts.tail) with
          | none => return (x, ts)
          | some (y, rest) => operands wary fuel level levels (binary o x y) rest
      | _ => return (x, ts)

/-- A term with a sign in front or an exponent behind. -/
def factor (wary : Bool) : Nat → Lexemes → Reading (Term × Lexemes)
  | 0, _ => mismatch
  | fuel + 1, ts => do
      if (← isOp "+" ts) || (← isOp "-" ts) then
        let (x, rest) ← factor wary fuel ts.tail
        return (.signed x, rest)
      if ← isOp "~" ts then
        let (_, rest) ← factor wary fuel ts.tail
        return (.other "expression", rest)
      let awaited ← isWord "await" ts
      let (x, rest) ← atom wary fuel (if awaited then ts.tail else ts)
      let (x, rest) ← primary wary fuel x rest
      let x := if awaited then .other "await expression" else x
      if !(← isOp "**" rest) then return (x, rest)
      match ← attempt (factor wary fuel rest.tail) with
      | some (_, rest) => return (.other "expression", rest)
      | none => return (x, rest)

/-- The members and arguments behind a term. -/
def primary (wary : Bool) : Nat → Term → Lexemes → Reading (Term × Lexemes)
  | 0, _, _ => mismatch
  | fuel + 1, x, ts => do
      if ← isOp "." ts then
        match ← name? ts.tail with
        | some _ => primary wary fuel (.other "attribute") ts.tail.tail
        | none => return (x, ts)
      else if ← isOp "(" ts then
        match ← attempt (arguments wary fuel {} ts.tail) with
        | some (bare, rest) => primary wary fuel (.call x bare) rest
        | none => return (x, ts)
      else return (x, ts)

/-- Arguments up to the closing bracket, and whether there are none. -/
def arguments (wary : Bool) : Nat → Arguments → Lexemes → Reading (Bool × Lexemes)
  | 0, _, _ => mismatch
  | fuel + 1, found, ts => do
      if ← isOp ")" ts then return (!found.any, ts.tail)
      let (now, rest) ← argument wary fuel found ts
      if ← isOp ")" rest then return (false, rest.tail)
      else if ← isOp "," rest then arguments wary fuel now rest.tail
      else mismatch

/-- One argument, and what the arguments hold with it. -/
def argument (wary : Bool) : Nat → Arguments → Lexemes → Reading (Arguments × Lexemes)
  | 0, _, _ => mismatch
  | fuel + 1, found, ts => do
      if ← isOp "**" ts then
        let (_, rest) ← expression wary fuel ts.tail
        return ({ found with any := true, keyword := true, unpacking := true }, rest)
      if ← isOp "*" ts then
        if found.unpacking then mismatch
        let (_, rest) ← unpacked wary fuel ts.tail
        return ({ found with any := true }, rest)
      if ← isNameBefore "=" ts then
        let (_, rest) ← expression wary fuel ts.tail.tail
        if wary && (← isWord "for" rest) then explain .equalsSign
        return ({ found with any := true, keyword := true }, rest)
      let named ← isNameBefore ":=" ts
      let (x, rest) ← expression wary fuel (if named then ts.tail.tail else ts)
      if ← isOp "=" rest then
        if !wary then mismatch
        match x with
        | .constant w => explain (.constantAssignment w)
        | _ => explain .keywordAssignment
      if found.keyword then
        if wary then explain (.positionalBehind found.unpacking) else mismatch
      if (← isWord "for" rest) || (← isWord "async" rest) then
        let (_, rest) ← clauses wary fuel rest
        if wary && (found.any || (← isOp "," rest)) then explain .bareGenerator
        if found.any || !(← isOp ")" rest) then mismatch
        return ({ found with any := true }, rest)
      return ({ found with any := true }, rest)

/-- A term without operators. -/
def atom (wary : Bool) : Nat → Lexemes → Reading (Term × Lexemes)
  | 0, _ => mismatch
  | fuel + 1, ts => do
      match ← next ts with
      | .number imaginary => return (.number imaginary, ts.tail)
      | .text bytes _ _ =>
          let texts := textsAt ts
          let rest := ts.drop texts.length
          let _ ← next rest
          match textsFault bytes texts with
          | some f => explain f
          | none =>
              return (if texts.any (·.2.1) then .other "f-string expression" else .text bytes, rest)
      | .name n =>
          if (["None", "True", "False"] : List Text).contains n then return (.constant n, ts.tail)
          else if keywords.contains n then mismatch
          else return (.name n, ts.tail)
      | .op o =>
          if o = ("..." : Text) then return (.ellipsis, ts.tail)
          else if o = ("(" : Text) then group wary fuel ts.tail
          else if o = ("\x7b" : Text) then braces wary fuel ts.tail
          else mismatch
      | _ => mismatch

/-- What stands behind a star that unpacks it. -/
def unpacked (wary : Bool) : Nat → Lexemes → Reading (Term × Lexemes)
  | 0, _ => mismatch
  | fuel + 1, ts => do
      match ← attempt (expression wary fuel ts) with
      | some r => return r
      | none => if wary then explain .strayStar else mismatch

/-- The mistakes that are recognised in brackets that begin with a star. -/
def starMistakes (round : Bool) : Nat → Lexemes → Reading Unit
  | 0, _ => .ok ()
  | fuel + 1, ts => do
      let (_, rest) ← unpacked true fuel ts.tail
      if round && (← isOp ")" rest) then explain .starredGroup
      match ← attempt (clauses true fuel rest) with
      | some _ => explain .starredGenerator
      | none => pure ()

/-- What stands between round brackets. -/
def group (wary : Bool) : Nat → Lexemes → Reading (Term × Lexemes)
  | 0, _ => mismatch
  | fuel + 1, ts => do
      match ← attempt (groupContent wary fuel ts) with
      | some r => return r
      | none =>
          if wary && (← isOp "*" ts) then starMistakes true fuel ts
          if wary && (← isOp "**" ts) then
            let (_, rest) ← expression wary fuel ts.tail
            if ← isOp ")" rest then explain .doubleStarredGroup
          mismatch

/-- A tuple, a term between brackets or a generator, behind the opening bracket. -/
def groupContent (wary : Bool) : Nat → Lexemes → Reading (Term × Lexemes)
  | 0, _ => mismatch
  | fuel + 1, ts => do
      if ← isOp ")" ts then return (.tuple [], ts.tail)
      if ← isWord "yield" ts then
        let ts := if ← isWord "from" ts.tail then ts.tail.tail else ts.tail
        let (_, rest) ← members wary fuel ts
        return (.other "yield expression", ← expect ")" rest)
      let (x, rest) ← member wary fuel ts
      if ← isOp "," rest then
        let (xs, rest) ← members wary fuel rest.tail
        return (.tuple (x :: xs), ← expect ")" rest)
      if ← isOp "*" ts then mismatch
      if ← isOp ")" rest then return (x, rest.tail)
      let (_, rest) ← clauses wary fuel rest
      return (.generator, ← expect ")" rest)

/-- A member of a tuple or a set: an expression that may have a name or a star. -/
def member (wary : Bool) : Nat → Lexemes → Reading (Term × Lexemes)
  | 0, _ => mismatch
  | fuel + 1, ts => do
      if ← isOp "*" ts then
        let (x, rest) ← operation wary fuel binaryLevels ts.tail
        return (.starred x, rest)
      if ← isNameBefore ":=" ts then
        let (_, rest) ← expression wary fuel ts.tail.tail
        return (.other "named expression", rest)
      let (x, rest) ← expression wary fuel ts
      if ← isOp ":=" rest then
        if wary then
          match ← attempt (expression wary fuel rest.tail) with
          | some _ => explain (.namedAssignment x.kind)
          | none => mismatch
        else mismatch
      if wary && (← isOp "=" rest) then strayEquals fuel ts rest
      return (x, rest)

/-- The mistake of an equals sign behind a member that is a single operand. -/
def strayEquals : Nat → (start rest : Lexemes) → Reading Unit
  | 0, _, _ => .ok ()
  | fuel + 1, start, rest => do
      let (x, sign) ← operation true fuel binaryLevels start
      match ← attempt (operation true fuel binaryLevels rest.tail) with
      | none => pure ()
      | some (_, behind) =>
          if sign.length = rest.length && !((← isOp "=" behind) || (← isOp ":=" behind)) then
            match x with
            | .name _ => explain .equalsSign
            | .tuple _ | .generator | .constant _ => pure ()
            | x => explain (.assignment x.kind)

/-- Members between commas, as far as there are any. -/
def members (wary : Bool) : Nat → Lexemes → Reading ((List Term) × Lexemes)
  | 0, _ => mismatch
  | fuel + 1, ts => do
      match ← attempt (member wary fuel ts) with
      | none => return ([], ts)
      | some (x, rest) =>
          if ← isOp "," rest then
            let (xs, rest) ← members wary fuel rest.tail
            return (x :: xs, rest)
          else return ([x], rest)

/-- What stands between braces. -/
def braces (wary : Bool) : Nat → Lexemes → Reading (Term × Lexemes)
  | 0, _ => mismatch
  | fuel + 1, ts => do
      match ← attempt (bracesContent wary fuel ts) with
      | some r => return r
      | none =>
          if wary && (← isOp "*" ts) then starMistakes false fuel ts
          mismatch

/-- A mapping, a set or a comprehension, behind the opening brace. -/
def bracesContent (wary : Bool) : Nat → Lexemes → Reading (Term × Lexemes)
  | 0, _ => mismatch
  | fuel + 1, ts => do
      if ← isOp "\x7d" ts then return (.dict [], ts.tail)
      if ← isOp "**" ts then
        let (es, rest) ← pairs wary fuel ts
        return (.dict es, ← expect "\x7d" rest)
      let isStarred ← isOp "*" ts
      let (x, rest) ← member wary fuel ts
      if !isStarred && (← isOp ":" rest) then
        let (v, rest) ← entry wary fuel rest.tail
        if (← isWord "for" rest) || (← isWord "async" rest) then
          let (_, rest) ← clauses wary fuel rest
          return (.other "dict comprehension", ← expect "\x7d" rest)
        let (es, rest) ← if ← isOp "," rest then pairs wary fuel rest.tail else pure ([], rest)
        return (.dict ((some x, v) :: es), ← expect "\x7d" rest)
      if (← isWord "for" rest) || (← isWord "async" rest) then
        if isStarred then mismatch
        let (_, rest) ← clauses wary fuel rest
        return (.other "set comprehension", ← expect "\x7d" rest)
      let (xs, rest) ← if ← isOp "," rest then members wary fuel rest.tail else pure ([], rest)
      return (.set (x :: xs), ← expect "\x7d" rest)

/-- Keys with their values between commas, as far as there are any. -/
def pairs (wary : Bool) : Nat → Lexemes → Reading (List (Option Term × Term) × Lexemes)
  | 0, _ => mismatch
  | fuel + 1, ts => do
      if ← isOp "\x7d" ts then return ([], ts)
      let (e, rest) ← pair wary fuel ts
      if ← isOp "," rest then
        let (es, rest) ← pairs wary fuel rest.tail
        return (e :: es, rest)
      return ([e], rest)

/-- A key with its value, or a mapping to be unpacked. -/
def pair (wary : Bool) : Nat → Lexemes → Reading ((Option Term × Term) × Lexemes)
  | 0, _ => mismatch
  | fuel + 1, ts => do
      if ← isOp "**" ts then
        let (x, rest) ← operation wary fuel binaryLevels ts.tail
        return ((none, x), rest)
      let (k, rest) ← expression wary fuel ts
      if !(← isOp ":" rest) then
        if wary then explain .missingColon else mismatch
      let (v, rest) ← entry wary fuel rest.tail
      return ((some k, v), rest)

/-- The value behind a key. -/
def entry (wary : Bool) : Nat → Lexemes → Reading (Term × Lexemes)
  | 0, _ => mismatch
  | fuel + 1, ts => do
      match ← attempt (expression wary fuel ts) with
      | some (v, rest) => return (v, rest)
      | none =>
          if !wary then mismatch
          if ← isOp "*" ts then
            let _ ← operation wary fuel binaryLevels ts.tail
            explain .starredEntry
          if (← isOp "\x7d" ts) || (← isOp "," ts) then explain .missingValue
          mismatch

/-- The clauses of a comprehension. -/
def clauses (wary : Bool) : Nat → Lexemes → Reading (Unit × Lexemes)
  | 0, _ => mismatch
  | fuel + 1, ts => do
      let ts := if ← isWord "async" ts then ts.tail else ts
      if !(← isWord "for" ts) then mismatch
      let found ← match ← attempt (targets wary fuel ts.tail) with
        | some rest => if ← isWord "in" rest then pure (some rest.tail) else pure none
        | none => pure none
      match found with
      | some rest =>
          let (_, rest) ← disjunction wary fuel rest
          conditions wary fuel rest
      | none =>
          if wary then
            match ← attempt (expression wary fuel ts.tail) with
            | some (x, _) => if !x.isTarget then explain (.target x.kind)
            | none => pure ()
          mismatch

/-- The conditions of a clause, and the clauses behind it. -/
def conditions (wary : Bool) : Nat → Lexemes → Reading (Unit × Lexemes)
  | 0, _ => mismatch
  | fuel + 1, ts => do
      if ← isWord "if" ts then
        let (_, rest) ← disjunction wary fuel ts.tail
        conditions wary fuel rest
      else if (← isWord "for" ts) || (← isWord "async" ts) then clauses wary fuel ts
      else return ((), ts)

/-- The targets of a clause. -/
def targets (wary : Bool) : Nat → Lexemes → Reading (Lexemes)
  | 0, _ => mismatch
  | fuel + 1, ts => do
      let ts := if ← isOp "*" ts then ts.tail else ts
      let (x, rest) ← operation wary fuel binaryLevels ts
      if !x.isTarget then
        if wary then explain (.target x.kind) else mismatch
      if !(← isOp "," rest) then return rest
      if ← isWord "in" rest.tail then return rest.tail
      targets wary fuel rest.tail

end

/-- Expressions between commas at the top, which together are a tuple. -/
def topExpressions (wary : Bool) (bound : Nat) : Nat → Lexemes → Reading ((List Term × Bool) × Lexemes)
  | 0, _ => mismatch
  | fuel + 1, ts => do
      let (x, rest) ← expression wary bound ts
      if !(← isOp "," rest) then return (([x], false), rest)
      match ← attempt (topExpressions wary bound fuel rest.tail) with
      | some ((xs, _), rest) => return ((x :: xs, true), rest)
      | none => return (([x], true), rest.tail)

/-- Tokens behind line ends. -/
def dropNewlines : Lexemes → Lexemes
  | ⟨.newline, _⟩ :: ts => dropNewlines ts
  | ts => ts

/-- The term of all tokens. -/
def topTerm (wary : Bool) (ts : Lexemes) : Reading Term := do
  let bound := 24 * ts.length + 48
  let ((xs, isTuple), rest) ← topExpressions wary bound (ts.length + 1) ts
  let rest := dropNewlines rest
  match ← next rest with
  | .finish => match xs with
    | [x] => .ok (if isTuple then .tuple xs else x)
    | xs => .ok (.tuple xs)
  | .indent => explain .indentation
  | _ => mismatch

/-- Whether a fault is one of the spelling. -/
def Fault.isSpelling : Fault → Bool
  | unclosed _ | unmatched _ | crossed _ _ | unterminated _ _ | badNumber _ | badDigit _ _ | leadingZeros
  | longNumber _ | badCharacter _ | tooNested | strayBackslash | endOfText => true
  | _ => false

/-- The fault of the spelling behind which no token was read. What is wrong with the end of the text or of a
line counts only where it is reached. -/
def spellingFault? (ts : Lexemes) : Option Fault :=
  ts.findSome? fun t => match t.token with
    | .fault (.unclosed _) | .fault .strayBackslash | .fault .endOfText => none
    | .fault f => some f
    | _ => none

/-- The term of a text. A fault of the spelling hides all other ones. -/
def ofText (t : Text) : Except Fault Term :=
  let ts := lexemes t
  let settle := fun (f : Fault) => if f.isSpelling then f else (spellingFault? ts).getD f
  match topTerm false ts with
  | .ok x => .ok x
  | .error (.fault f) => .error (settle f)
  | .error .mismatch => match topTerm true ts with
    | .error (.fault f) => .error (settle f)
    | _ => .error (settle .misplaced)

end StepForge.Literal
