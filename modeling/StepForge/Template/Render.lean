import StepForge.Template.Reader
import StepForge.Value.Display
import StepForge.Text.LetterCase

/-!
# `StepForge.Template.Render` — a template applied to a context

A context gives values to names. A name or member without a value is a fault as soon as it is used,
except by a test or by the filter that supplies a default. What is output is the plain text of the
value and is never looked at again.

## Contents
- `RenderFault` — what can go wrong.
- `Operand` — a value, or something that is not defined, with its fault.
- `applyFilter`, `applyTest`, `Expr.eval` — expressions.
- `renderNodes`, `render` — nodes and templates.
-/

namespace StepForge.Template

/-- Why a template cannot be rendered in a context. -/
inductive RenderFault where
  | undefined (message : Text)
  | kind (message : Text)
  | unknownFilter (name : Text)

/-- The text of a fault. -/
def RenderFault.message : RenderFault → Text
  | undefined t => t
  | kind t => t
  | unknownFilter name => ("No filter named " : Text) ++ Text.quoted name ++ " found."

/-- What an expression stands for. -/
inductive Operand where
  | value (v : Value)
  | undefined (message : Text)

/-- Names with their values, the ones bound last in front. -/
abbrev Bindings := List (Text × Value)

namespace Operand

/-- The value of an operand that is used. -/
def use : Operand → Except RenderFault Value
  | value v => .ok v
  | undefined m => .error (.undefined m)

end Operand

/-- The name of the kind of a value, as faults give it. -/
def ownerName : Value → Text
  | .null => "'None'"
  | .date _ => "'datetime.date object'"
  | .moment _ => "'datetime.datetime object'"
  | v => ("'" : Text) ++ v.kind ++ " object'"

/-- A member that a value does not have, by name. -/
def noAttribute (v : Value) (n : Text) : Operand :=
  .undefined (ownerName v ++ (" has no attribute " : Text) ++ Text.quoted n)

/-- A member that a value does not have, by key. -/
def noElement (v key : Value) : Operand :=
  match key with
  | .str n => noAttribute v n
  | key => .undefined (ownerName v ++ (" has no element " : Text) ++ key.spelled)

/-- The item at a position, counted from the end if negative. -/
def itemAt? {α : Type} (xs : List α) (i : Int) : Option α :=
  if 0 ≤ i then xs[i.toNat]? else if -i ≤ xs.length then xs[(xs.length + i).toNat]? else none

/-- The member of a value by key. -/
def member (v key : Value) : Operand :=
  match v, key with
  | .map es, key => ((Value.get? key es).map .value).getD (noElement v key)
  | .list xs, .int i | .tuple xs, .int i => ((itemAt? xs i).map .value).getD (noElement v key)
  | .str t, .int i => ((itemAt? t i).map fun c => .value (.str [c])).getD (noElement v key)
  | v, key => noElement v key

/-- A bound of a slice moved into the range of positions. -/
def clampBound (size : Nat) (low high : Int) (b : Int) : Int :=
  let b := if b < 0 then b + size else b
  max low (min high b)

/-- The positions that a slice takes from `start`, at most `fuel` of them. -/
def slicePositions : Nat → (start stop step : Int) → List Nat
  | 0, _, _, _ => []
  | fuel + 1, start, stop, step =>
      if (0 < step && start < stop) || (step < 0 && stop < start) then
        start.toNat :: slicePositions fuel (start + step) stop step
      else []

/-- The items of a slice; a step of zero takes none. -/
def sliceOf {α : Type} (xs : List α) (start stop step : Option Int) : List α :=
  let size := xs.length
  let step := step.getD 1
  let positions :=
    if 0 < step then
      slicePositions size ((start.map (clampBound size 0 size)).getD 0)
        ((stop.map (clampBound size 0 size)).getD size) step
    else
      slicePositions size ((start.map (clampBound size (-1) (size - 1))).getD (size - 1))
        ((stop.map (clampBound size (-1) (size - 1))).getD (-1)) step
  positions.filterMap fun i => xs[i]?

/-- A bound of a slice: absent, null or an integer. -/
def boundOf? : Option Value → Option (Option Int)
  | none => some none
  | some .null => some none
  | some (.int i) => some (some i)
  | some (.bool b) => some (some (if b then 1 else 0))
  | some _ => none

/-- The slice of a text or a list. -/
def slice (v : Value) (start stop step : Option Value) : Operand :=
  let bounds := do
    let a ← boundOf? start
    let b ← boundOf? stop
    let c ← boundOf? step
    pure (a, b, c)
  match v, bounds with
  | .str t, some (a, b, c) => .value (.str (sliceOf t a b c))
  | .list xs, some (a, b, c) => .value (.list (sliceOf xs a b c))
  | .tuple xs, some (a, b, c) => .value (.tuple (sliceOf xs a b c))
  | v, _ =>
      let shown (o : Option Value) : Text := (o.getD .null).spelled
      .undefined (ownerName v ++ (" has no element slice(" : Text)
        ++ Text.join ", " [shown start, shown stop, shown step] ++ ")")

/-- The items over which a loop runs. -/
def itemsOf : Value → Except RenderFault (List Value)
  | .list xs | .tuple xs | .set xs => .ok xs
  | .map es => .ok (es.map (·.1))
  | .str t => .ok (t.map fun c => .str [c])
  | .bytes bs => .ok (bs.map fun b => .int b.toNat)
  | v => .error (.kind (("'" : Text) ++ v.kind ++ "' object is not iterable"))

/-- The number of items of a value. -/
def sizeOf (v : Value) : Except RenderFault Nat :=
  match itemsOf v with
  | .ok xs => .ok xs.length
  | .error _ => .error (.kind (("object of type '" : Text) ++ v.kind ++ "' has no len()"))

/-- A text with markup characters replaced by their entities. -/
def escaped (t : Text) : Text :=
  t.flatMap fun c =>
    if c = '&'.toNat then ("&amp;" : Text)
    else if c = '<'.toNat then "&lt;"
    else if c = '>'.toNat then "&gt;"
    else if c = '\''.toNat then "&#39;"
    else if c = '"'.toNat then "&#34;"
    else [c]

/-- Every word with its first code point in upper case; words end at blanks, hyphens and opening
brackets. -/
def titleFrom : (wordStart : Bool) → (done word : Text) → Text → Text
  | _, done, word, [] => done ++ titled word
  | _, done, word, c :: t =>
      if Text.isBlank c || ("-([<\x7b" : Text).contains c then titleFrom true (done ++ titled word ++ [c]) [] t
      else titleFrom false done (word ++ [c]) t
where
  /-- One word. -/
  titled : Text → Text
    | [] => []
    | c :: t => Text.upperLetter c ++ Text.lower t

/-- The value of a filter's argument, or a default. -/
def argument (args : List Value) (i : Nat) (otherwise : Value) : Value := args[i]?.getD otherwise

/-- A filter applied to a value. -/
def applyFilter (name : Text) (v : Value) (args : List Value) : Except RenderFault Operand :=
  let text (t : Text) : Except RenderFault Operand := .ok (.value (.str t))
  if name = ("upper" : Text) then text (Text.upper v.display)
  else if name = ("lower" : Text) then text (Text.lower v.display)
  else if name = ("capitalize" : Text) then text (Text.capitalized v.display)
  else if name = ("title" : Text) then text (titleFrom true [] [] v.display)
  else if name = ("trim" : Text) then
    match args.head? with
    | some (.str chars) => text (Text.trim (fun c => chars.contains c) v.display)
    | _ => text (Text.trim Text.isBlank v.display)
  else if name = ("string" : Text) || name = ("safe" : Text) then text v.display
  else if name = ("e" : Text) || name = ("escape" : Text) then text (escaped v.display)
  else if name = ("length" : Text) || name = ("count" : Text) then
    (sizeOf v).map fun n => .value (.int n)
  else if name = ("list" : Text) then (itemsOf v).map fun xs => .value (.list xs)
  else if name = ("first" : Text) then
    (itemsOf v).map fun xs => (xs.head?.map .value).getD (.undefined "No first item, sequence was empty.")
  else if name = ("last" : Text) then
    (itemsOf v).map fun xs => (xs.getLast?.map .value).getD (.undefined "No last item, sequence was empty.")
  else if name = ("reverse" : Text) then
    match v with
    | .str t => text t.reverse
    | v => (itemsOf v).map fun xs => .value (.list xs.reverse)
  else if name = ("join" : Text) then
    (itemsOf v).map fun xs =>
      .value (.str (Text.join (argument args 0 (.str [])).display (xs.map Value.display)))
  else if name = ("replace" : Text) then
    let old := (argument args 0 (.str [])).display
    let new := (argument args 1 (.str [])).display
    -- The empty text stands in front of each code point and at the end.
    if old.isEmpty then text (new ++ v.display.flatMap fun c => c :: new)
    else text (Text.replaceAll old new v.display)
  else if name = ("default" : Text) || name = ("d" : Text) then
    if (argument args 1 (.bool false)).isTruthy && !v.isTruthy then
      .ok (.value (argument args 0 (.str [])))
    else .ok (.value v)
  else .error (.unknownFilter name)

/-- A test applied to a value. -/
def applyTest (name : Text) (v : Value) (args : List Value) : Bool :=
  if name = ("defined" : Text) then true
  else if name = ("undefined" : Text) then false
  else if name = ("none" : Text) then (match v with | .null => true | _ => false)
  else if name = ("string" : Text) then (match v with | .str _ => true | _ => false)
  else if name = ("number" : Text) then (match v with | .int _ | .float _ | .bool _ => true | _ => false)
  else if name = ("integer" : Text) then (match v with | .int _ => true | _ => false)
  else if name = ("float" : Text) then (match v with | .float _ => true | _ => false)
  else if name = ("boolean" : Text) then (match v with | .bool _ => true | _ => false)
  else if name = ("true" : Text) then (match v with | .bool b => b | _ => false)
  else if name = ("false" : Text) then (match v with | .bool b => !b | _ => false)
  else if name = ("mapping" : Text) then (match v with | .map _ => true | _ => false)
  else if name = ("sequence" : Text) then
    (match v with | .list _ | .tuple _ | .str _ | .map _ | .bytes _ => true | _ => false)
  else if name = ("iterable" : Text) then (itemsOf v).isOk
  else match v, name with
    | .int n, name =>
        if name = ("odd" : Text) then n % 2 == 1
        else if name = ("even" : Text) then n % 2 == 0
        else match args.head? with
          | some (.int k) => k != 0 && n % k == 0
          | _ => false
    | _, _ => false

mutual

/-- Whether two values are equal: keys of a mapping are compared in any order. -/
def equalValues : Value → Value → Bool
  | .list xs, .list ys => equalLists xs ys
  | .tuple xs, .tuple ys => equalLists xs ys
  | .map es, .map fs => es.length == fs.length && equalEntries es fs
  | .set xs, .set ys =>
      xs.length == ys.length && xs.all fun x => ys.any fun y => Value.sameKey x y
  | v, w => Value.sameKey v w

/-- Whether two lists have equal items. -/
def equalLists : List Value → List Value → Bool
  | [], [] => true
  | x :: xs, y :: ys => equalValues x y && equalLists xs ys
  | _, _ => false

/-- Whether every entry has an equal value under its key in the other entries. -/
def equalEntries : List (Value × Value) → List (Value × Value) → Bool
  | [], _ => true
  | (k, v) :: es, fs =>
      (match Value.get? k fs with
        | some w => equalValues v w
        | none => false) && equalEntries es fs

end

/-- The order of two numbers, if both are. -/
def compareNumbers? (a b : Value) : Option Ordering :=
  match a.number?, b.number? with
  | some (.inl m), some (.inl n) => some (compare m n)
  | some x, some y =>
      let toFloat : Int ⊕ Binary64 → Binary64
        | .inl n => Binary64.ofInt n
        | .inr x => x
      let d := (toFloat x).add (toFloat y).neg
      if d.isNaN then none
      else if d.isFinite && d.mantissa == 0 then some .eq
      else some (if d.negative then .lt else .gt)
  | _, _ => none

/-- The order of two values that have one. -/
def compareValues (symbol : Text) (a b : Value) : Except RenderFault Ordering :=
  match a, b with
  | .str s, .str t => .ok (if s = t then .eq else if Text.before s t then .lt else .gt)
  | a, b =>
      match compareNumbers? a b with
      | some o => .ok o
      | none =>
          .error (.kind (("'" : Text) ++ symbol ++ "' not supported between instances of '" ++ a.kind
            ++ "' and '" ++ b.kind ++ "'"))

/-- Whether a value holds another: a part of a text, an item of a list or a key of a mapping. -/
def holds (container v : Value) : Except RenderFault Bool :=
  match container, v with
  | .str t, .str part => .ok (Text.hasPart part t)
  | .str _, v =>
      .error (.kind (("'in <string>' requires string as left operand, not " : Text) ++ v.kind))
  | .map es, v => .ok (Value.get? v es).isSome
  | .list xs, v | .tuple xs, v | .set xs, v => .ok (xs.any (equalValues v))
  | c, _ => .error (.kind (("argument of type '" : Text) ++ c.kind ++ "' is not iterable"))

/-- A comparison of two values. -/
def applyComparison (how : Comparison) (a b : Value) : Except RenderFault Bool :=
  match how with
  | .equal => .ok (equalValues a b)
  | .different => .ok (!equalValues a b)
  | .less => (compareValues "<" a b).map (· == .lt)
  | .atMost => (compareValues "<=" a b).map (· != .gt)
  | .greater => (compareValues ">" a b).map (· == .gt)
  | .atLeast => (compareValues ">=" a b).map (· != .lt)
  | .member => holds b a
  | .notMember => (holds b a).map not

/-- An operation on two values. -/
def applyOperation (how : Operation) (a b : Value) : Except RenderFault Value :=
  let fault (symbol : Text) : Except RenderFault Value :=
    .error (.kind (("unsupported operand type(s) for " : Text) ++ symbol ++ ": '" ++ a.kind ++ "' and '"
      ++ b.kind ++ "'"))
  match how, a, b with
  | .concat, a, b => .ok (.str (a.display ++ b.display))
  | .plus, .int m, .int n => .ok (.int (m + n))
  | .plus, .str s, .str t => .ok (.str (s ++ t))
  | .plus, .str _, b =>
      .error (.kind (("can only concatenate str (not \"" : Text) ++ b.kind ++ "\") to str"))
  | .plus, .list xs, .list ys => .ok (.list (xs ++ ys))
  | .minus, .int m, .int n => .ok (.int (m - n))
  | .times, .int m, .int n => .ok (.int (m * n))
  | .quotient, .int m, .int n =>
      if n = 0 then .error (.kind "integer division or modulo by zero") else .ok (.int (m.fdiv n))
  | .remainder, .int m, .int n =>
      if n = 0 then .error (.kind "integer modulo by zero") else .ok (.int (m.fmod n))
  | .plus, .float x, .float y => .ok (.float (x.add y))
  | .minus, .float x, .float y => .ok (.float (x.add y.neg))
  | .times, .float x, .float y => .ok (.float (x.mul y))
  | .plus, _, _ => fault "+"
  | .minus, _, _ => fault "-"
  | .times, _, _ => fault "*"
  | .quotient, _, _ => fault "//"
  | .remainder, _, _ => fault "%"

/-- A number with the other sign. -/
def negated : Value → Except RenderFault Value
  | .int n => .ok (.int (-n))
  | .bool b => .ok (.int (if b then -1 else 0))
  | .float x => .ok (.float x.neg)
  | v => .error (.kind (("bad operand type for unary -: '" : Text) ++ v.kind ++ "'"))

/-- The value of a bound of a slice, given what the bound stands for; an absent bound has none. -/
def boundValue : Expr → Operand → Except RenderFault (Option Value)
  | .absent, _ => .ok none
  | _, o => o.use.map some

mutual

/-- What an expression stands for. -/
def Expr.eval (env : Bindings) : Expr → Except RenderFault Operand
  | .literal v => .ok (.value v)
  | .name n => .ok (((env.lookup n).map .value).getD (.undefined (Text.quoted n ++ (" is undefined" : Text))))
  | .absent => .ok (.undefined "the inline if-expression evaluated to false and no else section was defined.")
  | .list es => do return .value (.list (← evalAll env es))
  | .map es => do return .value (.map (Value.ofEntries (← evalEntries env es)))
  | .attribute e n => do
      let v ← (← e.eval env).use
      return match v with
        | .map es => ((Value.get? (.str n) es).map .value).getD (noAttribute v n)
        | v => noAttribute v n
  | .item e key => do
      let v ← (← e.eval env).use
      let k ← (← key.eval env).use
      return member v k
  | .slice e start stop step => do
      let v ← (← e.eval env).use
      let a ← boundValue start (← start.eval env)
      let b ← boundValue stop (← stop.eval env)
      let c ← boundValue step (← step.eval env)
      return slice v a b c
  | .filter e n args => do
      let o ← e.eval env
      let vs ← evalAll env args
      match o with
      | .undefined m =>
          -- Only this filter may be applied to what is not defined.
          if n = ("default" : Text) || n = ("d" : Text) then return .value (argument vs 0 (.str []))
          else if filterNames.contains n then .error (.undefined m)
          else .error (.unknownFilter n)
      | .value v => applyFilter n v vs
  | .test e n args => do
      let o ← e.eval env
      let vs ← evalAll env args
      match o with
      | .undefined m =>
          if n = ("defined" : Text) then return .value (.bool false)
          else if n = ("undefined" : Text) then return .value (.bool true)
          else .error (.undefined m)
      | .value v => return .value (.bool (applyTest n v vs))
  | .negation e => do
      let v ← (← e.eval env).use
      return .value (.bool !v.isTruthy)
  | .both a b => do
      let v ← (← a.eval env).use
      if v.isTruthy then b.eval env else return .value v
  | .either a b => do
      let v ← (← a.eval env).use
      if v.isTruthy then return .value v else b.eval env
  | .compare a how b => do
      let v ← (← a.eval env).use
      let w ← (← b.eval env).use
      return .value (.bool (← applyComparison how v w))
  | .operate how a b => do
      let v ← (← a.eval env).use
      let w ← (← b.eval env).use
      return .value (← applyOperation how v w)
  | .minus e => do
      let v ← (← e.eval env).use
      return .value (← negated v)
  | .choose condition yes no => do
      let v ← (← condition.eval env).use
      if v.isTruthy then yes.eval env else no.eval env

/-- The values of several expressions. -/
def evalAll (env : Bindings) : List Expr → Except RenderFault (List Value)
  | [] => .ok []
  | e :: es => do
      let v ← (← e.eval env).use
      return v :: (← evalAll env es)

/-- The values of keys and their entries. -/
def evalEntries (env : Bindings) : List (Expr × Expr) → Except RenderFault (List (Value × Value))
  | [] => .ok []
  | (k, e) :: es => do
      let key ← (← k.eval env).use
      let v ← (← e.eval env).use
      return (key, v) :: (← evalEntries env es)

end

/-- What a loop tells its body about the item at position `i` of `size`. -/
def loopInfo (i size : Nat) : Value :=
  .map [(.str "index", .int (i + 1 : Nat)), (.str "index0", .int i),
    (.str "revindex", .int (size - i : Nat)), (.str "revindex0", .int (size - i - 1 : Nat)),
    (.str "first", .bool (i == 0)), (.str "last", .bool (i + 1 == size)), (.str "length", .int size)]

/-- The names of a loop bound to an item: one name to the item, several to its parts. -/
def bindItem (names : List Text) (v : Value) : Except RenderFault Bindings :=
  match names with
  | [n] => .ok [(n, v)]
  | names => do
      let parts ← itemsOf v
      if parts.length < names.length then
        .error (.kind (("not enough values to unpack (expected " : Text) ++ Text.ofNat names.length
          ++ ", got " ++ Text.ofNat parts.length ++ ")"))
      else if names.length < parts.length then
        .error (.kind (("too many values to unpack (expected " : Text) ++ Text.ofNat names.length ++ ")"))
      else .ok (names.zip parts)

mutual

/-- The text of a node, and the bindings behind it. -/
def Node.render (env : Bindings) : Node → Except RenderFault (Text × Bindings)
  | .text t => .ok (t, env)
  | .output e => do
      let v ← (← e.eval env).use
      return (v.display, env)
  | .assign n e => do
      let v ← (← e.eval env).use
      return ([], (n, v) :: env)
  | .branch condition yes no => do
      let v ← (← condition.eval env).use
      if v.isTruthy then renderNodes env yes else renderNodes env no
  | .loop names source body otherwise => do
      let v ← (← source.eval env).use
      let items ← itemsOf v
      if items.isEmpty then
        let (t, _) ← renderNodes env otherwise
        return (t, env)
      let texts ← (items.zip (List.range items.length)).mapM fun (item, i) => do
        let bound ← bindItem names item
        let (t, _) ← renderNodes ((("loop" : Text), loopInfo i items.length) :: bound ++ env) body
        return t
      return (texts.flatten, env)

/-- The texts of nodes in order, each seeing what those before it bound. -/
def renderNodes (env : Bindings) : List Node → Except RenderFault (Text × Bindings)
  | [] => .ok ([], env)
  | n :: ns => do
      let (t, env) ← n.render env
      let (rest, env) ← renderNodes env ns
      return (t ++ rest, env)

end

/-- The text of a template in a context. -/
def render (nodes : List Node) (context : Bindings) : Except RenderFault Text :=
  (renderNodes context nodes).map (·.1)

end StepForge.Template
