import StepForge.Yaml.Scalar

/-!
# `StepForge.Yaml.Content` — what the nodes of a document hold

Nodes are read in the order in which they are met: a scalar at once, and a collection, whose parts may
lead back to it, when all collections met before it have been read. So of several faults the one nearest to
the top is found first, and on one level the leftmost. A merge changes the mapping that it stands in, for
all that comes later.

## Contents
- `Content`, `Contents` — what nodes hold, by number.
- `Work`, `Reading` — the nodes, what is known of them, and the collections that wait.
- `flatten` — a mapping with the entries that it merges in front of its own.
- `meet`, `fill` — a node met, and a collection read.
- `contentsOf` — what all nodes below a root hold.
-/

namespace StepForge.Yaml

/-- What a node holds. Parts are given by the numbers of their nodes. -/
inductive Content where
  | value (v : Value)
  | list (items : List Nat)
  | pairs (entries : List (Nat × Nat))
  | map (entries : List (Nat × Nat))
  | set (members : List Nat)
  deriving Inhabited

/-- What the nodes hold that were met, by number. -/
abbrev Contents : Type := Array (Option Content)

/-- Nodes on the way to their contents. -/
structure Work where
  nodes : Nodes
  contents : Contents
  /-- The collections that were met and not yet read, the latest in front. -/
  waiting : List Nat
  /-- More than the merges of the document, which bounds how deep they are nested. -/
  bound : Nat

/-- A computation on nodes. -/
abbrev Reading : Type → Type := StateT Work (Except Fault)

/-- What is not YAML. -/
def refuse {α : Type} : Reading α := throw .malformed

/-- The node of a number. -/
def nodeAt (n : Nat) : Reading Node := return (← get).nodes[n]?.getD .empty

/-- Puts a node in the place of another. -/
def putNode (n : Nat) (node : Node) : Reading Unit :=
  modify fun w => { w with nodes := w.nodes.setIfInBounds n node }

/-- The tag of a node. -/
def Node.tag : Node → Tag
  | scalar t _ => t
  | sequence t _ => t
  | mapping t _ => t

/-- The node with another tag. -/
def Node.withTag (tag : Tag) : Node → Node
  | scalar _ t => scalar tag t
  | sequence _ items => sequence tag items
  | mapping _ entries => mapping tag entries

/-- The tag of the node of a number. -/
def tagAt (n : Nat) : Reading Tag := return (← nodeAt n).tag

/-- The entries of a mapping; any other node has none. -/
def entriesAt (n : Nat) : Reading (List (Nat × Nat)) := do
  match ← nodeAt n with
  | .mapping _ es => return es
  | _ => return []

/-- Puts entries into a mapping. -/
def putEntries (n : Nat) (entries : List (Nat × Nat)) : Reading Unit := do
  match ← nodeAt n with
  | .mapping tag _ => putNode n (.mapping tag entries)
  | _ => pure ()

/-! ## Merges -/

/-- The entries of a mapping that is merged, which is flattened before. -/
def mergedFrom (flattenOther : Nat → Reading Unit) (n : Nat) : Reading (List (Nat × Nat)) := do
  match ← nodeAt n with
  | .mapping _ _ => do
      flattenOther n
      entriesAt n
  | _ => refuse

/-- The entries of several mappings that are merged, those of the last one in front. -/
def mergedFromAll (flattenOther : Nat → Reading Unit) : List Nat → Reading (List (Nat × Nat))
  | [] => pure []
  | n :: ns => do
      let first ← mergedFrom flattenOther n
      let others ← mergedFromAll flattenOther ns
      return others ++ first

/-- The entries that a mapping merges behind the entries `kept`: a merge is taken out of it, and a value key
becomes a text. A mapping that merges itself has lost its merges by then, and nothing is left to do. -/
def mergesOf (flattenOther : Nat → Reading Unit) (n : Nat) :
    (kept : List (Nat × Nat)) → List (Nat × Nat) → Reading (List (Nat × Nat))
  | _, [] => pure []
  | kept, (k, v) :: rest => do
      let tag ← tagAt k
      if tag = .merge then
        putEntries n (kept.reverse ++ rest)
        let merged ← match ← nodeAt v with
          | .sequence _ items => mergedFromAll flattenOther items
          | _ => mergedFrom flattenOther v
        let others ← if (← entriesAt n) = kept.reverse ++ rest then mergesOf flattenOther n kept rest else pure []
        return merged ++ others
      else do
        if tag = .value then putNode k ((← nodeAt k).withTag .str)
        mergesOf flattenOther n ((k, v) :: kept) rest

/-- Puts the entries that a mapping merges in front of its own ones. -/
def flatten : Nat → (n : Nat) → Reading Unit
  | 0, _ => refuse
  | fuel + 1, n => do
      let merged ← mergesOf (flatten fuel) n [] (← entriesAt n)
      if !merged.isEmpty then putEntries n (merged ++ (← entriesAt n))

/-! ## Scalars -/

/-- The number of the value of the first entry whose key is the value key. -/
def valueEntry? : List (Nat × Nat) → Reading (Option Nat)
  | [] => pure none
  | (k, v) :: es => do if (← tagAt k) = .value then pure (some v) else valueEntry? es

/-- The text of a node with the tag of a scalar: of a mapping it is the one under the value key. -/
def scalarText : Nat → (n : Nat) → Reading Text
  | 0, _ => refuse
  | fuel + 1, n => do
      match ← nodeAt n with
      | .scalar _ t => pure t
      | .mapping _ es => match ← valueEntry? es with
        | some v => scalarText fuel v
        | none => refuse
      | .sequence _ _ => refuse

/-- The value of a node with the tag of a scalar. A timestamp has to be written as a scalar. -/
def scalarAt (n : Nat) (tag : Tag) : Reading Value := do
  let text ← scalarText ((← get).nodes.size + 1) n
  match tag, ← nodeAt n with
  | .timestamp, .mapping _ _ => throw .composite
  | tag, _ => scalarValue tag text

/-! ## Collections -/

/-- Notes what a node holds. -/
def putContent (n : Nat) (c : Content) : Reading Unit :=
  modify fun w => { w with contents := w.contents.setIfInBounds n (some c) }

/-- What a collection of a tag holds before it is read. -/
def emptyContent? : Tag → Option Content
  | .seq => some (.list [])
  | .omap | .pairs => some (.pairs [])
  | .map => some (.map [])
  | .set => some (.set [])
  | _ => none

/-- Meets a node. -/
def meet (n : Nat) : Reading Unit := do
  if ((← get).contents[n]?.getD none).isSome then return
  let tag ← tagAt n
  match emptyContent? tag with
  | some c => do
      putContent n c
      modify fun w => { w with waiting := n :: w.waiting }
  | none => putContent n (.value (← scalarAt n tag))

/-- Meets several nodes. -/
def meetAll : List Nat → Reading Unit
  | [] => pure ()
  | n :: ns => do
      meet n
      meetAll ns

/-- Meets a node that has to be a key, which no collection can be. -/
def meetKey (n : Nat) : Reading Unit := do
  meet n
  match (← get).contents[n]?.getD none with
  | some (.value _) => pure ()
  | _ => refuse

/-- Meets the keys and values of entries. -/
def meetEntries : List (Nat × Nat) → Reading Unit
  | [] => pure ()
  | (k, v) :: es => do
      meetKey k
      meet v
      meetEntries es

/-- The keys and values of mappings of one entry, which are met. -/
def pairsOf : List Nat → Reading (List (Nat × Nat))
  | [] => pure []
  | n :: ns => do
      match ← nodeAt n with
      | .mapping _ [(k, v)] => do
          meet k
          meet v
          return (k, v) :: (← pairsOf ns)
      | _ => refuse

/-- The entries of a mapping with those that it merges, which are met. -/
def entriesOf (n : Nat) : Reading (List (Nat × Nat)) := do
  match ← nodeAt n with
  | .mapping _ _ => do
      flatten (← get).bound n
      let es ← entriesAt n
      meetEntries es
      return es
  | _ => refuse

/-- Reads a collection. -/
def fill (n : Nat) : Reading Unit := do
  let node ← nodeAt n
  match node.tag, node with
  | .seq, .sequence _ items => do
      meetAll items
      putContent n (.list items)
  | .omap, .sequence _ items | .pairs, .sequence _ items => do
      putContent n (.pairs (← pairsOf items))
  | .map, _ => do putContent n (.map (← entriesOf n))
  | .set, _ => do putContent n (.set ((← entriesOf n).map (·.1)))
  | _, _ => refuse

/-- Reads all of several collections. -/
def fillAll : List Nat → Reading Unit
  | [] => pure ()
  | n :: ns => do
      fill n
      fillAll ns

/-- Reads the collections that wait, and those that they lead to. -/
def fillWaiting : Nat → Reading Unit
  | 0 => pure ()
  | fuel + 1 => do
      let waiting := (← get).waiting
      if waiting.isEmpty then return
      modify fun w => { w with waiting := [] }
      fillAll waiting.reverse
      fillWaiting fuel

/-- The number of the entries of all mappings. -/
def entryCount (nodes : Nodes) : Nat :=
  nodes.foldl (fun n node => match node with
    | .mapping _ es => n + es.length
    | _ => n) 0

/-- What the nodes hold that a root leads to. -/
def contentsOf (root : Nat) (nodes : Nodes) : Except Fault Contents := do
  let read : Reading Unit := do
    meet root
    fillWaiting (nodes.size + 1)
  let (_, w) ← read.run ⟨nodes, .replicate nodes.size none, [], entryCount nodes + 1⟩
  return w.contents

end StepForge.Yaml
