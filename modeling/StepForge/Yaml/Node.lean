import StepForge.Yaml.Token
import StepForge.Yaml.Tag

/-!
# `StepForge.Yaml.Node` — the nodes of a stream

Tokens are put together to nodes. A node has a number, the number of nodes that began before it, and a
collection holds the numbers of its parts. An alias is the number of the node of its anchor, which may be a
collection that the alias stands in. A stream holds at most one document.

## Contents
- `Node`, `Nodes` — scalars, sequences and mappings with their tags, and all nodes by number.
- `Stream` — the tokens still to come, the anchors and the nodes known.
- `node` and the functions beside it — one node, and the collections of either style.
- `documentOf` — the nodes of a whole stream.
-/

namespace StepForge.Yaml

/-- A node of a document. Parts are given by number. -/
inductive Node where
  | scalar (tag : Tag) (text : Text)
  | sequence (tag : Tag) (items : List Nat)
  | mapping (tag : Tag) (entries : List (Nat × Nat))
  deriving DecidableEq, Inhabited

/-- The node where none is written. -/
def Node.empty : Node := .scalar .null []

/-- All nodes of a document, each at its number. -/
abbrev Nodes : Type := Array Node

/-- The tokens still to come, the numbers of the anchors, the latest in front, and the nodes so far. -/
structure Stream where
  tokens : List Token
  anchors : List (Text × Nat) := []
  nodes : Nodes := #[]

/-- The tag handles of a document with what they stand for. -/
abbrev Handles := List (Text × Text)

/-- The tag and anchor in front of a node. -/
structure Properties where
  anchor : Option Text
  /-- The tag in full; an exclamation mark alone asks for the tag of the form. -/
  tag : Option Text

namespace Properties

/-- The tag of a node, given the tag of one without. -/
def tagOr (p : Properties) (otherwise : Tag) : Tag :=
  match p.tag with
  | none => otherwise
  | some t => if t = ("!" : Text) then otherwise else Tag.ofUri t

/-- The tag of a scalar: what is not plain is a text, unless an exclamation mark asks for its form. -/
def scalarTag (p : Properties) (text : Text) (plain : Bool) : Tag :=
  p.tagOr (if plain || p.tag.isSome then Tag.ofPlain text else .str)

end Properties

namespace Stream

/-- The next token; a fault is raised when it is looked at. -/
def next (s : Stream) : Except Fault Token :=
  match s.tokens with
  | .fault f :: _ => .error f
  | t :: _ => .ok t
  | [] => malformed

/-- The stream behind the next token. -/
def drop (s : Stream) : Stream := { s with tokens := s.tokens.tail }

/-- The stream with one more node, which the anchor of some properties knows, and the number of the node. -/
def add (s : Stream) (p : Properties) (n : Node) : Nat × Stream :=
  let number := s.nodes.size
  (number,
   { s with
     nodes := s.nodes.push n
     anchors := match p.anchor with
       | none => s.anchors
       | some a => (a, number) :: s.anchors })

/-- The number of one more node without properties, and the stream with it. -/
def addPlain (s : Stream) (n : Node) : Nat × Stream := s.add ⟨none, none⟩ n

/-- The stream with a node in the place of one that was begun. -/
def finish (s : Stream) (number : Nat) (n : Node) : Stream := { s with nodes := s.nodes.setIfInBounds number n }

/-- A tag written with a handle, in full. -/
def fullTag (handles : Handles) (handle : Option Text) (suffix : Text) : Except Fault Text :=
  match handle with
  | none => .ok suffix
  | some h => match handles.lookup h with
    | some start => .ok (start ++ suffix)
    | none => malformed

/-- The tag and anchor here, in either order. -/
def properties (handles : Handles) (s : Stream) : Except Fault (Properties × Stream) := do
  match ← s.next with
  | .anchor a =>
      let s := s.drop
      match ← s.next with
      | .tag h suffix => return (⟨some a, some (← fullTag handles h suffix)⟩, s.drop)
      | _ => return (⟨some a, none⟩, s)
  | .tag h suffix =>
      let s := s.drop
      match ← s.next with
      | .anchor a => return (⟨some a, some (← fullTag handles h suffix)⟩, s.drop)
      | _ => return (⟨none, some (← fullTag handles h suffix)⟩, s)
  | _ => return (⟨none, none⟩, s)

end Stream

/-- Where a node stands: in flow style, in block style, or as a value or key in block style, where a
sequence needs no indentation. -/
inductive Place where
  | flow
  | block
  | entry
  deriving DecidableEq

/-- Whether a token ends an entry of a block sequence. -/
def endsItem : Token → Bool
  | .blockEntry | .blockEnd => true
  | _ => false

/-- Whether a token ends an entry of a sequence without indentation. -/
def endsLooseItem : Token → Bool
  | .blockEntry | .key | .value | .blockEnd => true
  | _ => false

/-- Whether a token ends a key or value of a block mapping. -/
def endsBlockPart : Token → Bool
  | .key | .value | .blockEnd => true
  | _ => false

/-- Whether a token ends a key of a mapping in flow style. -/
def endsFlowKey : Token → Bool
  | .value | .flowEntry | .flowMappingEnd => true
  | _ => false

/-- Whether a token ends a value of a mapping in flow style. -/
def endsFlowValue : Token → Bool
  | .flowEntry | .flowMappingEnd => true
  | _ => false

/-- Whether a token ends the key of a pair in a sequence in flow style. -/
def endsPairKey : Token → Bool
  | .value | .flowEntry | .flowSequenceEnd => true
  | _ => false

/-- Whether a token ends the value of a pair in a sequence in flow style. -/
def endsPairValue : Token → Bool
  | .flowEntry | .flowSequenceEnd => true
  | _ => false

mutual

/-- A node, by its number. -/
def node (handles : Handles) : Nat → Place → Stream → Except Fault (Nat × Stream)
  | 0, _, _ => malformed
  | fuel + 1, place, s => do
      match ← s.next with
      | .alias name => match s.anchors.lookup name with
        | some n => .ok (n, s.drop)
        | none => malformed
      | _ =>
          -- A collection is known by its anchor before its parts are read.
          let (p, s) ← s.properties handles
          let fresh := p.anchor.all fun a => (s.anchors.lookup a).isNone
          match ← s.next with
          | .scalar text plain =>
              if !fresh then malformed
              .ok (s.drop.add p (.scalar (p.scalarTag text plain) text))
          | .flowSequence =>
              if !fresh then malformed
              let (n, s) := s.drop.add p .empty
              let (items, s) ← flowItems handles fuel true s
              .ok (n, s.finish n (.sequence (p.tagOr .seq) items))
          | .flowMapping =>
              if !fresh then malformed
              let (n, s) := s.drop.add p .empty
              let (es, s) ← flowEntries handles fuel true s
              .ok (n, s.finish n (.mapping (p.tagOr .map) es))
          | .blockSequence =>
              if !fresh || place = .flow then malformed
              let (n, s) := s.drop.add p .empty
              let (items, s) ← blockItems handles fuel s
              .ok (n, s.finish n (.sequence (p.tagOr .seq) items))
          | .blockMapping =>
              if !fresh || place = .flow then malformed
              let (n, s) := s.drop.add p .empty
              let (es, s) ← blockEntries handles fuel s
              .ok (n, s.finish n (.mapping (p.tagOr .map) es))
          | token =>
              if place = .entry && token matches .blockEntry then
                if !fresh then malformed
                let (n, s) := s.add p .empty
                let (items, s) ← looseItems handles fuel s
                .ok (n, s.finish n (.sequence (p.tagOr .seq) items))
              -- A tag or an anchor with nothing behind it is an empty scalar.
              else if p.anchor.isSome || p.tag.isSome then
                if !fresh then malformed
                .ok (s.add p (.scalar (p.tagOr .null) []))
              else malformed

/-- A node, or the empty one if the next token ends the part. -/
def optional (handles : Handles) :
    Nat → Place → (ends : Token → Bool) → Stream → Except Fault (Nat × Stream)
  | 0, _, _, _ => malformed
  | fuel + 1, place, ends, s => do
      if ends (← s.next) then .ok (s.addPlain .empty) else node handles fuel place s

/-- The node behind a value mark, or the empty one if there is no mark. -/
def valuePart (handles : Handles) :
    Nat → Place → (ends : Token → Bool) → Stream → Except Fault (Nat × Stream)
  | 0, _, _, _ => malformed
  | fuel + 1, place, ends, s => do
      match ← s.next with
      | .value => optional handles fuel place ends s.drop
      | _ => .ok (s.addPlain .empty)

/-- The items of a block sequence up to its end. -/
def blockItems (handles : Handles) : Nat → Stream → Except Fault (List Nat × Stream)
  | 0, _ => malformed
  | fuel + 1, s => do
      match ← s.next with
      | .blockEntry =>
          let (n, s) ← optional handles fuel .block endsItem s.drop
          let (ns, s) ← blockItems handles fuel s
          .ok (n :: ns, s)
      | .blockEnd => .ok ([], s.drop)
      | _ => malformed

/-- The items of a sequence without indentation. -/
def looseItems (handles : Handles) : Nat → Stream → Except Fault (List Nat × Stream)
  | 0, _ => malformed
  | fuel + 1, s => do
      match ← s.next with
      | .blockEntry =>
          let (n, s) ← optional handles fuel .block endsLooseItem s.drop
          let (ns, s) ← looseItems handles fuel s
          .ok (n :: ns, s)
      | _ => .ok ([], s)

/-- The entries of a block mapping up to its end. -/
def blockEntries (handles : Handles) : Nat → Stream → Except Fault (List (Nat × Nat) × Stream)
  | 0, _ => malformed
  | fuel + 1, s => do
      match ← s.next with
      | .key =>
          let (k, s) ← optional handles fuel .entry endsBlockPart s.drop
          let (v, s) ← valuePart handles fuel .entry endsBlockPart s
          let (es, s) ← blockEntries handles fuel s
          .ok ((k, v) :: es, s)
      | .blockEnd => .ok ([], s.drop)
      | _ => malformed

/-- The items of a sequence in flow style up to its bracket. A pair is a mapping of one entry. -/
def flowItems (handles : Handles) : Nat → (first : Bool) → Stream → Except Fault (List Nat × Stream)
  | 0, _, _ => malformed
  | fuel + 1, first, s => do
      match ← s.next with
      | .flowSequenceEnd => .ok ([], s.drop)
      | token =>
          let s ← if first then pure s else if token matches .flowEntry then pure s.drop else malformed
          match ← s.next with
          | .flowSequenceEnd => .ok ([], s.drop)
          | .key =>
              -- A pair has no tag or anchor of its own.
              let (n, s) := s.drop.addPlain .empty
              let (k, s) ← optional handles fuel .flow endsPairKey s
              let (v, s) ← valuePart handles fuel .flow endsPairValue s
              let (ns, s) ← flowItems handles fuel false (s.finish n (.mapping .map [(k, v)]))
              .ok (n :: ns, s)
          | _ =>
              let (n, s) ← node handles fuel .flow s
              let (ns, s) ← flowItems handles fuel false s
              .ok (n :: ns, s)

/-- The entries of a mapping in flow style up to its brace. A node without a mark is a key. -/
def flowEntries (handles : Handles) :
    Nat → (first : Bool) → Stream → Except Fault (List (Nat × Nat) × Stream)
  | 0, _, _ => malformed
  | fuel + 1, first, s => do
      match ← s.next with
      | .flowMappingEnd => .ok ([], s.drop)
      | token =>
          let s ← if first then pure s else if token matches .flowEntry then pure s.drop else malformed
          match ← s.next with
          | .flowMappingEnd => .ok ([], s.drop)
          | .key =>
              let (k, s) ← optional handles fuel .flow endsFlowKey s.drop
              let (v, s) ← valuePart handles fuel .flow endsFlowValue s
              let (es, s) ← flowEntries handles fuel false s
              .ok ((k, v) :: es, s)
          | _ =>
              let (k, s) ← node handles fuel .flow s
              let (v, s) := s.addPlain .empty
              let (es, s) ← flowEntries handles fuel false s
              .ok ((k, v) :: es, s)

end

/-! ## Documents -/

/-- The handles that every document has. -/
def defaultHandles : Handles := [("!", "!"), ("!!", Tag.standard)]

/-- The handles that the directives here declare, each at most once. -/
def directives : (versioned : Bool) → Handles → List Token → Except Fault (Handles × List Token)
  | versioned, handles, .version major :: ts =>
      if versioned || major ≠ 1 then malformed else directives true handles ts
  | versioned, handles, .tagHandle h start :: ts =>
      if (handles.lookup h).isSome then malformed else directives versioned ((h, start) :: handles) ts
  | versioned, handles, .directive :: ts => directives versioned handles ts
  | _, handles, ts => .ok (handles ++ defaultHandles, ts)

/-- The tokens behind the marks that end documents. -/
def dropDocumentEnds : List Token → List Token
  | .documentEnd :: ts => dropDocumentEnds ts
  | ts => ts

/-- Whether a token ends a document without content. -/
def endsDocument : Token → Bool
  | .version _ | .tagHandle _ _ | .directive | .documentStart | .documentEnd | .streamEnd => true
  | _ => false

/-- More than the depth of calls that a number of tokens can lead to. -/
def depthBound (ts : List Token) : Nat := 4 * ts.length + 8

/-- The root of a document and all that its stream holds. -/
abbrev Document : Type := Nat × Stream

/-- A document that begins with a mark, if the stream does not end here. -/
def markedDocument? (ts : List Token) : Except Fault (Option Document) := do
  let s : Stream := { tokens := dropDocumentEnds ts }
  match ← s.next with
  | .streamEnd => .ok none
  | _ =>
      let (handles, ts) ← directives false [] s.tokens
      let s : Stream := { tokens := ts }
      match ← s.next with
      | .documentStart => (optional handles (depthBound ts) .block endsDocument s.drop).map some
      | _ => malformed

/-- The first document of a stream. -/
def firstDocument? (ts : List Token) : Except Fault (Option Document) := do
  let s : Stream := { tokens := ts }
  match ← s.next with
  | .streamEnd => .ok none
  | .documentStart | .directive | .version _ | .tagHandle _ _ => markedDocument? ts
  | _ => (node defaultHandles (depthBound ts) .block s).map some

/-- The root and the nodes of the one document of a stream, if there is one. -/
def documentOf (ts : List Token) : Except Fault (Option (Nat × Nodes)) := do
  match ← firstDocument? ts with
  | none => .ok none
  | some (n, s) =>
      let behind := match ← s.next with
        | .documentEnd => s.drop.tokens
        | _ => s.tokens
      match ← ({ tokens := dropDocumentEnds behind } : Stream).next with
      | .streamEnd => .ok (some (n, s.nodes))
      | _ => malformed

end StepForge.Yaml
