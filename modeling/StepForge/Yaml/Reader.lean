import StepForge.Yaml.Content

/-!
# `StepForge.Yaml.Reader` — reading a YAML text into a value

The contents of nodes are put together to values. Where a collection leads back to itself it is a knot
under the number of its node, and so is each collection on the way.

## Contents
- `Keyed`, `insertKeyed` — entries whose keys are told apart.
- `Weave`, `weave` — the value of a node.
- `read` — a whole text.
-/

namespace StepForge.Yaml

/-- A key with the number of its node, and what belongs to it. -/
structure Keyed (α : Type) where
  number : Nat
  key : Value
  content : α

/-- Whether two keys are one: nodes of one number are, whatever they hold, and values may be. -/
def Keyed.same {α : Type} (a b : Keyed α) : Bool := a.number == b.number || Value.sameKey a.key b.key

/-- Entries with one more: a key that is there keeps its place and its spelling. -/
def insertKeyed {α : Type} (e : Keyed α) : List (Keyed α) → List (Keyed α)
  | [] => [e]
  | f :: es => if f.same e then { f with content := e.content } :: es else f :: insertKeyed e es

/-- Entries under distinct keys. -/
def distinct {α : Type} (es : List (Keyed α)) : List (Keyed α) :=
  es.foldl (fun done e => insertKeyed e done) []

/-- A value, and whether it holds a name of a collection that it is part of. -/
structure Weave where
  value : Value
  loose : Bool

/-- The values of nodes that hold no name, by number. -/
abbrev Woven : Type := Array (Option Value)

/-- A computation that keeps values. -/
abbrev Weaving : Type → Type := StateM Woven

/-- The values of several nodes, and whether one of them holds a name. -/
def weaveAll (weaveOne : Nat → Weaving Weave) : List Nat → Weaving (List Value × Bool)
  | [] => pure ([], false)
  | n :: ns => do
      let x ← weaveOne n
      let (xs, loose) ← weaveAll weaveOne ns
      return (x.value :: xs, x.loose || loose)

/-- The keys and values of entries, and whether one of them holds a name. -/
def weaveEntries (weaveOne : Nat → Weaving Weave) :
    List (Nat × Nat) → Weaving (List (Keyed Value) × Bool)
  | [] => pure ([], false)
  | (k, v) :: es => do
      let key ← weaveOne k
      let x ← weaveOne v
      let (xs, loose) ← weaveEntries weaveOne es
      return (⟨k, key.value, x.value⟩ :: xs, key.loose || x.loose || loose)

/-- What a collection of some content is. -/
def collection (weaveOne : Nat → Weaving Weave) : Content → Weaving Weave
  | .value v => pure ⟨v, false⟩
  | .list items => do
      let (xs, loose) ← weaveAll weaveOne items
      return ⟨.list xs, loose⟩
  | .pairs entries => do
      let (es, loose) ← weaveEntries weaveOne entries
      return ⟨.list (es.map fun e => .tuple [e.key, e.content]), loose⟩
  | .map entries => do
      let (es, loose) ← weaveEntries weaveOne entries
      return ⟨.map ((distinct es).map fun e => (e.key, e.content)), loose⟩
  | .set members => do
      let (es, loose) ← weaveEntries weaveOne (members.map fun m => (m, m))
      return ⟨.set ((distinct es).map (·.key)), loose⟩

/-- Whether some content is a mapping. -/
def Content.isMap : Content → Bool
  | map _ => true
  | _ => false

/-- The value of a node inside collections of some names. -/
def weave (contents : Contents) : Nat → (names : List Nat) → (n : Nat) → Weaving Weave
  | 0, _, _ => pure ⟨.null, false⟩
  | fuel + 1, names, n => do
      match (← get)[n]?.getD none with
      | some v => return ⟨v, false⟩
      | none =>
          let content := (contents[n]?.getD none).getD (.value .null)
          if names.contains n then return ⟨.again n content.isMap, true⟩
          let x ← collection (weave contents fuel (n :: names)) content
          if x.loose then return { x with value := .knot n x.value }
          modify fun w => w.setIfInBounds n (some x.value)
          return x

/-- The value of a root. -/
def valueOf (root : Nat) (nodes : Nodes) : Except Fault Value := do
  let contents ← contentsOf root nodes
  let (x, _) := (weave contents (nodes.size + 1) [] root).run (.replicate nodes.size none)
  return x.value

/-- Whether a code point may stand in a stream. -/
def isAllowed (c : CodePoint) : Bool :=
  c = 9 || c = 10 || c = 13 || (0x20 ≤ c && c ≤ 0x7E) || c = 0x85 || (0xA0 ≤ c && c ≤ 0xD7FF)
    || (0xE000 ≤ c && c ≤ 0xFFFD) || (0x10000 ≤ c && c ≤ 0x10FFFF)

/-- The value of a YAML text of one document; a text without one is null. Of several faults of a text the first in
the order of reading is found; a reader that looks ahead for keys can come to another of them before that. -/
def read (t : Text) : Except Fault Value := do
  if t.all isAllowed then
    match ← documentOf (tokens t) with
    | none => .ok .null
    | some (root, nodes) => valueOf root nodes
  else malformed

end StepForge.Yaml
