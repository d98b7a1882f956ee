import StepForge.Template.Expr
import StepForge.Template.Token

/-!
# `StepForge.Template.Reader` — the grammar of expressions and statements

An expression is read by levels: a choice, then `or`, `and`, `not`, comparisons, sums, concatenations,
products, and at the bottom a term with its members, filters and tests. A statement opens a block up to
the statement that ends it.

This is the part of the language in which the bundled templates are written, and somewhat more of it. A template that
names further ones or defines macros is not in it, and neither are calls; such a source is refused as one with
a fault would be. Where all of the language matters, compiling and rendering are an engine of their own.

## Contents
- The levels from `choice` down to `term` — expressions, each with the tokens behind it.
- `nodes` — the nodes up to a statement that ends the block.
- `unknownFilter` — whether a node applies a filter that does not exist outside of any branch.
- `read` — a whole template.
-/

namespace StepForge.Template

/-- A symbol. -/
def sym (s : String) : Token := .symbol s

/-- A word. -/
def word (s : String) : Token := .name s

/-- The tokens behind a token that must come next. -/
def expect (t : Token) : List Token → Except ReadFault (List Token)
  | u :: rest => if u = t then .ok rest else .error .grammar
  | [] => .error .grammar

/-- The filters, by name. -/
def filterNames : List Text :=
  ["upper", "lower", "capitalize", "title", "trim", "length", "count", "first", "last", "join",
   "default", "d", "replace", "reverse", "string", "list", "e", "escape", "safe"]

/-- The tests, by name. -/
def testNames : List Text :=
  ["defined", "undefined", "none", "string", "number", "integer", "float", "boolean", "true", "false",
   "mapping", "sequence", "iterable", "odd", "even", "divisibleby"]

/-- The comparison of a symbol. -/
def comparison? : Token → Option Comparison
  | .symbol s =>
      if s = ("==" : Text) then some .equal
      else if s = ("!=" : Text) then some .different
      else if s = ("<" : Text) then some .less
      else if s = ("<=" : Text) then some .atMost
      else if s = (">" : Text) then some .greater
      else if s = (">=" : Text) then some .atLeast
      else none
  | .name n => if n = ("in" : Text) then some .member else none
  | _ => none

/-- The constant that a word names. -/
def constant? (n : Text) : Option Value :=
  if n = ("true" : Text) || n = ("True" : Text) then some (.bool true)
  else if n = ("false" : Text) || n = ("False" : Text) then some (.bool false)
  else if n = ("none" : Text) || n = ("None" : Text) then some .null
  else none

/-- The operation of a symbol, among those of one level. -/
def operation? (level : List (Text × Operation)) : Token → Option Operation
  | .symbol s => level.lookup s
  | _ => none

/-- The operations of sums. -/
def sums : List (Text × Operation) := [("+", .plus), ("-", .minus)]

/-- The operation of concatenations. -/
def concatenations : List (Text × Operation) := [("~", .concat)]

/-- The operations of products. -/
def products : List (Text × Operation) := [("*", .times), ("//", .quotient), ("%", .remainder)]

mutual

/-- An expression with a condition behind it, or a plain one. -/
def choice : Nat → List Token → Except ReadFault (Expr × List Token)
  | 0, _ => .error .grammar
  | fuel + 1, ts => do
      let (e, ts) ← disjunction fuel ts
      choiceMore fuel e ts

/-- The conditions behind an expression. -/
def choiceMore : Nat → Expr → List Token → Except ReadFault (Expr × List Token)
  | 0, _, _ => .error .grammar
  | fuel + 1, e, ts =>
      match ts with
      | .name n :: rest =>
          if n = ("if" : Text) then do
            let (condition, ts) ← disjunction fuel rest
            match ts with
            | .name m :: rest =>
                if m = ("else" : Text) then do
                  let (no, ts) ← choice fuel rest
                  choiceMore fuel (.choose condition e no) ts
                else choiceMore fuel (.choose condition e .absent) ts
            | ts => choiceMore fuel (.choose condition e .absent) ts
          else .ok (e, ts)
      | ts => .ok (e, ts)

/-- Alternatives. -/
def disjunction : Nat → List Token → Except ReadFault (Expr × List Token)
  | 0, _ => .error .grammar
  | fuel + 1, ts => do
      let (e, ts) ← conjunction fuel ts
      match ts with
      | .name n :: rest =>
          if n = ("or" : Text) then do
            let (b, ts) ← disjunction fuel rest
            .ok (.either e b, ts)
          else .ok (e, ts)
      | ts => .ok (e, ts)

/-- Conjunctions. -/
def conjunction : Nat → List Token → Except ReadFault (Expr × List Token)
  | 0, _ => .error .grammar
  | fuel + 1, ts => do
      let (e, ts) ← denial fuel ts
      match ts with
      | .name n :: rest =>
          if n = ("and" : Text) then do
            let (b, ts) ← conjunction fuel rest
            .ok (.both e b, ts)
          else .ok (e, ts)
      | ts => .ok (e, ts)

/-- Negations. -/
def denial : Nat → List Token → Except ReadFault (Expr × List Token)
  | 0, _ => .error .grammar
  | fuel + 1, ts =>
      match ts with
      | .name n :: rest =>
          if n = ("not" : Text) then do
            let (e, ts) ← denial fuel rest
            .ok (.negation e, ts)
          else relation fuel ts
      | ts => relation fuel ts

/-- A comparison, or the sum it begins with. -/
def relation : Nat → List Token → Except ReadFault (Expr × List Token)
  | 0, _ => .error .grammar
  | fuel + 1, ts => do
      let (a, ts) ← level fuel sums ts
      match ts with
      | .name n :: .name m :: rest =>
          if n = ("not" : Text) && m = ("in" : Text) then do
            let (b, ts) ← level fuel sums rest
            .ok (.compare a .notMember b, ts)
          else if n = ("in" : Text) then do
            let (b, ts) ← level fuel sums (.name m :: rest)
            .ok (.compare a .member b, ts)
          else .ok (a, ts)
      | t :: rest =>
          match comparison? t with
          | some how => do
              let (b, ts) ← level fuel sums rest
              .ok (.compare a how b, ts)
          | none => .ok (a, t :: rest)
      | [] => .ok (a, [])

/-- Operands of one level joined from the left. -/
def level : Nat → List (Text × Operation) → List Token → Except ReadFault (Expr × List Token)
  | 0, _, _ => .error .grammar
  | fuel + 1, ops, ts => do
      let (a, ts) ← operand fuel ops ts
      levelMore fuel ops a ts

/-- The operations behind an operand. -/
def levelMore : Nat → List (Text × Operation) → Expr → List Token → Except ReadFault (Expr × List Token)
  | 0, _, _, _ => .error .grammar
  | fuel + 1, ops, a, ts =>
      match ts with
      | t :: rest =>
          match operation? ops t with
          | some how => do
              let (b, ts) ← operand fuel ops rest
              levelMore fuel ops (.operate how a b) ts
          | none => .ok (a, t :: rest)
      | [] => .ok (a, [])

/-- What the operations of a level join: the next level down. -/
def operand : Nat → List (Text × Operation) → List Token → Except ReadFault (Expr × List Token)
  | 0, _, _ => .error .grammar
  | fuel + 1, ops, ts =>
      match ops with
      | (_, .plus) :: _ => level fuel concatenations ts
      | (_, .concat) :: _ => level fuel products ts
      | _ => signed fuel ts

/-- A term with a sign in front, or a term with what follows it. -/
def signed : Nat → List Token → Except ReadFault (Expr × List Token)
  | 0, _ => .error .grammar
  | fuel + 1, ts =>
      match ts with
      | .symbol s :: rest =>
          if s = ("-" : Text) then do
            let (e, ts) ← signed fuel rest
            .ok (.minus e, ts)
          else if s = ("+" : Text) then signed fuel rest
          else do
            let (e, ts) ← term fuel ts
            follow fuel e ts
      | ts => do
          let (e, ts) ← term fuel ts
          follow fuel e ts

/-- A name, a constant, a list, a mapping or a bracketed expression. -/
def term : Nat → List Token → Except ReadFault (Expr × List Token)
  | 0, _ => .error .grammar
  | fuel + 1, ts =>
      match ts with
      | .name n :: rest =>
          match constant? n with
          | some v => .ok (.literal v, rest)
          | none => .ok (.name n, rest)
      -- Texts that stand side by side are one.
      | .text a :: .text b :: rest => term fuel (.text (a ++ b) :: rest)
      | .text s :: rest => .ok (.literal (.str s), rest)
      | .int n :: rest => .ok (.literal (.int n), rest)
      | .float x :: rest => .ok (.literal (.float x), rest)
      | .symbol s :: rest =>
          if s = ("(" : Text) then do
            let (e, ts) ← choice fuel rest
            let ts ← expect (sym ")") ts
            .ok (e, ts)
          else if s = ("[" : Text) then do
            let (es, ts) ← arguments fuel "]" rest
            .ok (.list es, ts)
          else if s = ("\x7b" : Text) then do
            let (es, ts) ← entries fuel rest
            .ok (.map es, ts)
          else .error .grammar
      | [] => .error .grammar

/-- Expressions with commas between them, up to a closing bracket. -/
def arguments : Nat → Text → List Token → Except ReadFault (List Expr × List Token)
  | 0, _, _ => .error .grammar
  | fuel + 1, close, ts =>
      match ts with
      | .symbol s :: rest =>
          if s = close then .ok ([], rest) else argumentsMore fuel close ts
      | ts => argumentsMore fuel close ts

/-- At least one expression up to a closing bracket. -/
def argumentsMore : Nat → Text → List Token → Except ReadFault (List Expr × List Token)
  | 0, _, _ => .error .grammar
  | fuel + 1, close, ts => do
      let (e, ts) ← choice fuel ts
      match ts with
      | .symbol s :: rest =>
          if s = close then .ok ([e], rest)
          else if s = ("," : Text) then do
            let (es, ts) ← arguments fuel close rest
            .ok (e :: es, ts)
          else .error .grammar
      | _ => .error .grammar

/-- Entries with commas between them, up to a closing brace. -/
def entries : Nat → List Token → Except ReadFault (List (Expr × Expr) × List Token)
  | 0, _ => .error .grammar
  | fuel + 1, ts =>
      match ts with
      | .symbol s :: rest =>
          if s = ("\x7d" : Text) then .ok ([], rest) else .error .grammar
      | ts => do
          let (k, ts) ← choice fuel ts
          let ts ← expect (sym ":") ts
          let (v, ts) ← choice fuel ts
          match ts with
          | .symbol s :: rest =>
              if s = ("\x7d" : Text) then .ok ([(k, v)], rest)
              else if s = ("," : Text) then do
                let (es, ts) ← entries fuel rest
                .ok ((k, v) :: es, ts)
              else .error .grammar
          | _ => .error .grammar

/-- Members, filters and tests behind a term. -/
def follow : Nat → Expr → List Token → Except ReadFault (Expr × List Token)
  | 0, _, _ => .error .grammar
  | fuel + 1, e, ts =>
      match ts with
      | .symbol s :: rest =>
          if s = ("." : Text) then
            match rest with
            | .name n :: rest => follow fuel (.attribute e n) rest
            | .int n :: rest => follow fuel (.item e (.literal (.int n))) rest
            | _ => .error .grammar
          else if s = ("[" : Text) then do
            let (part, ts) ← subscript fuel e rest
            follow fuel part ts
          else if s = ("|" : Text) then
            match rest with
            | .name n :: .symbol p :: rest =>
                if p = ("(" : Text) then do
                  let (args, ts) ← arguments fuel ")" rest
                  follow fuel (.filter e n args) ts
                else follow fuel (.filter e n []) (.symbol p :: rest)
            | .name n :: rest => follow fuel (.filter e n []) rest
            | _ => .error .grammar
          else .ok (e, ts)
      | .name n :: rest =>
          if n = ("is" : Text) then
            match rest with
            | .name m :: rest =>
                if m = ("not" : Text) then do
                  let (t, ts) ← testCall fuel e rest
                  follow fuel (.negation t) ts
                else do
                  let (t, ts) ← testCall fuel e (.name m :: rest)
                  follow fuel t ts
            | _ => .error .grammar
          else .ok (e, ts)
      | ts => .ok (e, ts)

/-- The name and the arguments of a test. -/
def testCall : Nat → Expr → List Token → Except ReadFault (Expr × List Token)
  | 0, _, _ => .error .grammar
  | fuel + 1, e, ts =>
      match ts with
      | .name n :: rest =>
          if !testNames.contains n then .error .unknownFilter
          else match rest with
            | .symbol p :: rest' =>
                if p = ("(" : Text) then do
                  let (args, ts) ← arguments fuel ")" rest'
                  .ok (.test e n args, ts)
                else .ok (.test e n [], rest)
            | rest => .ok (.test e n [], rest)
      | _ => .error .grammar

/-- A key or a slice up to the closing bracket. -/
def subscript : Nat → Expr → List Token → Except ReadFault (Expr × List Token)
  | 0, _, _ => .error .grammar
  | fuel + 1, e, ts => do
      let (start, ts) ← bound fuel ts
      match ts with
      | .symbol s :: rest =>
          if s = ("]" : Text) then
            match start with
            | .absent => .error .grammar
            | key => .ok (.item e key, rest)
          else if s = (":" : Text) then do
            let (stop, ts) ← bound fuel rest
            match ts with
            | .symbol s :: rest =>
                if s = ("]" : Text) then .ok (.slice e start stop .absent, rest)
                else if s = (":" : Text) then do
                  let (step, ts) ← bound fuel rest
                  let ts ← expect (sym "]") ts
                  .ok (.slice e start stop step, ts)
                else .error .grammar
            | _ => .error .grammar
          else .error .grammar
      | _ => .error .grammar

/-- A bound of a slice, which may be absent. -/
def bound : Nat → List Token → Except ReadFault (Expr × List Token)
  | 0, _ => .error .grammar
  | fuel + 1, ts =>
      match ts with
      | .symbol s :: _ =>
          if s = (":" : Text) || s = ("]" : Text) then .ok (.absent, ts) else choice fuel ts
      | ts => choice fuel ts

end

/-- Enough steps for any expression of that many tokens. -/
def steps (ts : List Token) : Nat := 16 * ts.length + 16

/-- An expression that takes all tokens. -/
def wholeExpr (ts : List Token) : Except ReadFault Expr := do
  match ← choice (steps ts) ts with
  | (e, []) => .ok e
  | _ => .error .grammar

/-- The names that a loop binds, up to the word `in`. -/
def loopNames : List Token → Except ReadFault (List Text × List Token)
  | .name n :: .symbol s :: rest =>
      if s = ("," : Text) then (loopNames rest).map fun (ns, ts) => (n :: ns, ts) else .error .grammar
  | .name n :: .name i :: rest => if i = ("in" : Text) then .ok ([n], rest) else .error .grammar
  | _ => .error .grammar

/-- The nodes up to a statement that begins with one of the words in `stops`, that statement's tokens,
and the pieces behind it. -/
def nodes : Nat → List Text → List Piece → Except ReadFault (List Node × List Token × List Piece)
  | 0, _, _ => .error .grammar
  | _ + 1, stops, [] => if stops.isEmpty then .ok ([], [], []) else .error .grammar
  | fuel + 1, stops, .text t :: ps =>
      (nodes fuel stops ps).map fun (ns, r) => (.text t :: ns, r)
  | fuel + 1, stops, .output ts :: ps => do
      let e ← wholeExpr ts
      (nodes fuel stops ps).map fun (ns, r) => (.output e :: ns, r)
  | fuel + 1, stops, .statement ts :: ps =>
      match ts with
      | .name n :: rest =>
          if stops.contains n then .ok ([], ts, ps)
          else if n = ("if" : Text) then do
            let (node, ps) ← branches fuel rest ps
            (nodes fuel stops ps).map fun (ns, r) => (node :: ns, r)
          else if n = ("for" : Text) then do
            let (names, ts) ← loopNames rest
            let source ← wholeExpr ts
            let (body, stop, ps) ← nodes fuel ["else", "endfor"] ps
            let (otherwise, ps) ←
              if stop.head? = some (word "else") then do
                if stop.length ≠ 1 then .error .grammar
                let (otherwise, stop, ps) ← nodes fuel ["endfor"] ps
                if stop.length ≠ 1 then .error .grammar
                pure (otherwise, ps)
              else if stop.length ≠ 1 then .error .grammar
              else pure ([], ps)
            (nodes fuel stops ps).map fun (ns, r) => (.loop names source body otherwise :: ns, r)
          else if n = ("set" : Text) then
            match rest with
            | .name target :: .symbol s :: value =>
                if s = ("=" : Text) then do
                  let e ← wholeExpr value
                  (nodes fuel stops ps).map fun (ns, r) => (.assign target e :: ns, r)
                else .error .grammar
            | _ => .error .grammar
          else .error .unknownStatement
      | _ => .error .grammar
where
  /-- The branches of a condition, given the tokens of the condition. -/
  branches : Nat → List Token → List Piece → Except ReadFault (Node × List Piece)
    | 0, _, _ => .error .grammar
    | fuel + 1, ts, ps => do
        let condition ← wholeExpr ts
        let (yes, stop, ps) ← nodes fuel ["elif", "else", "endif"] ps
        match stop with
        | .name n :: rest =>
            if n = ("elif" : Text) then do
              let (node, ps) ← branches fuel rest ps
              .ok (.branch condition yes [node], ps)
            else if rest ≠ [] then .error .grammar
            else if n = ("else" : Text) then do
              let (no, stop, ps) ← nodes fuel ["endif"] ps
              if stop.length ≠ 1 then .error .grammar
              .ok (.branch condition yes no, ps)
            else .ok (.branch condition yes [], ps)
        | _ => .error .grammar

mutual

/-- Whether an expression applies a filter that does not exist; a choice is looked at only when it is
made. -/
def Expr.unknownFilter : Expr → Bool
  | .literal _ | .name _ | .absent | .choose _ _ _ => false
  | .list es => unknownFilters es
  | .map es => unknownFilterEntries es
  | .attribute e _ | .negation e | .minus e => e.unknownFilter
  | .item a b | .both a b | .either a b | .compare a _ b | .operate _ a b =>
      a.unknownFilter || b.unknownFilter
  | .slice a b c d => a.unknownFilter || b.unknownFilter || c.unknownFilter || d.unknownFilter
  | .filter e n es => !filterNames.contains n || e.unknownFilter || unknownFilters es
  | .test e _ es => e.unknownFilter || unknownFilters es

/-- Whether one of several expressions applies a filter that does not exist. -/
def unknownFilters : List Expr → Bool
  | [] => false
  | e :: es => e.unknownFilter || unknownFilters es

/-- Whether a key or a value applies a filter that does not exist. -/
def unknownFilterEntries : List (Expr × Expr) → Bool
  | [] => false
  | (k, v) :: es => k.unknownFilter || v.unknownFilter || unknownFilterEntries es

end

mutual

/-- Whether a node applies a filter that does not exist, outside of the branches of conditions. -/
def Node.unknownFilter : Node → Bool
  | .text _ => false
  | .output e | .assign _ e => e.unknownFilter
  | .branch _ _ _ => false
  | .loop _ e body otherwise => e.unknownFilter || unknownFilterNodes body || unknownFilterNodes otherwise

/-- Whether one of several nodes applies a filter that does not exist. -/
def unknownFilterNodes : List Node → Bool
  | [] => false
  | n :: ns => n.unknownFilter || unknownFilterNodes ns

end

/-- The nodes of a template text. -/
def read (t : Text) : Except ReadFault (List Node) := do
  let ps ← pieces t
  let (ns, _) ← nodes (2 * ps.length + 2) [] ps
  if unknownFilterNodes ns then .error .unknownFilter
  .ok ns

end StepForge.Template
