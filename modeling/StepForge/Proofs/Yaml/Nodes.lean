import StepForge.Yaml.Node
import StepForge.Yaml.Scalar

/-!
# `StepForge.Proofs.Yaml.Nodes` — where the nodes of a stream come from

A node is put together out of tokens. Where no tag is written, a node is tagged by its form: a sequence and a
mapping as what they are, and a scalar by its text, which is that of a token.

## Contents
- `Ends` — how a computation can end.
- `Untagged`, `Misread` — streams without tags, and their faults.
- `Node.Formed`, `Stream.Formed` — nodes that are tagged by their forms.
- `Reads`, `reads` — one node and the collections of either style.
- `documentOf_ends` — the nodes of a whole stream.
-/

namespace StepForge.Yaml

/-! ## How computations end -/

/-- A computation ends with a fault of one kind or with a result of another. -/
def Ends {α : Type} (E : Fault → Prop) (P : α → Prop) : Except Fault α → Prop
  | .error f => E f
  | .ok a => P a

namespace Ends

variable {E : Fault → Prop} {α β : Type} {P : α → Prop} {Q : β → Prop} {r : Except Fault α}

theorem bind {f : α → Except Fault β} (hr : Ends E P r) (hf : ∀ a, P a → Ends E Q (f a)) : Ends E Q (r >>= f) := by
  cases r with
  | error e => exact hr
  | ok a => exact hf a hr

theorem map {f : α → β} (hr : Ends E P r) (hf : ∀ a, P a → Q (f a)) : Ends E Q (r.map f) := by
  cases r with
  | error e => exact hr
  | ok a => exact hf a hr

end Ends

/-! ## Streams without tags -/

/-- No tag is written. -/
def Untagged (ts : List Token) : Prop := ∀ handle suffix, Token.tag handle suffix ∉ ts

/-- Why the tokens of a stream without tags have no value: they are no document, they end in a fault, or a plain
scalar is not what its form says. -/
inductive Misread (ts : List Token) : Fault → Prop
  | malformed : Misread ts .malformed
  | token {f : Fault} (h : Token.fault f ∈ ts) : Misread ts f
  | scalar {text : Text} {f : Fault} (h : Token.scalar text true ∈ ts)
      (hvalue : scalarValue (Tag.ofPlain text) text = .error f) : Misread ts f

variable {ts : List Token}

theorem ends_malformed {α : Type} {P : α → Prop} : Ends (Misread ts) P malformed := Misread.malformed

theorem ends_ite {α : Type} {P : α → Prop} {c : Prop} [Decidable c] {r₁ r₂ : Except Fault α}
    (h₁ : Ends (Misread ts) P r₁) (h₂ : Ends (Misread ts) P r₂) : Ends (Misread ts) P (if c then r₁ else r₂) := by
  split
  · exact h₁
  · exact h₂

/-- What is not asked for is refused, and else the computation goes on. -/
theorem ends_guard {α : Type} {P : α → Prop} {c : Prop} [Decidable c] {r : Except Fault α}
    (h : Ends (Misread ts) P r) : Ends (Misread ts) P (if c then do malformed; r else r) :=
  ends_ite Misread.malformed h

/-- A node is tagged by its form. -/
def Node.Formed (ts : List Token) : Node → Prop
  | scalar tag text => tag = .null ∨ tag = .str ∨ Token.scalar text true ∈ ts ∧ tag = Tag.ofPlain text
  | sequence tag _ => tag = .seq
  | mapping tag _ => tag = .map

theorem Node.formed_empty : Node.empty.Formed ts := Or.inl rfl

/-- All nodes are tagged by their forms. -/
def Nodes.Formed (ts : List Token) (nodes : Nodes) : Prop :=
  ∀ (n : Nat) (node : Node), nodes[n]? = some node → node.Formed ts

theorem Nodes.Formed.push {nodes : Nodes} {node : Node} (h : Nodes.Formed ts nodes) (hnode : node.Formed ts) :
    Nodes.Formed ts (nodes.push node) := by
  intro n other hother
  rw [Array.getElem?_push] at hother
  split at hother
  · cases hother
    exact hnode
  · exact h n other hother

theorem Nodes.Formed.set {nodes : Nodes} {node : Node} (h : Nodes.Formed ts nodes) (hnode : node.Formed ts)
    (number : Nat) : Nodes.Formed ts (nodes.setIfInBounds number node) := by
  intro n other hother
  rw [Array.getElem?_setIfInBounds] at hother
  split at hother
  · split at hother
    · cases hother
      exact hnode
    · cases hother
  · exact h n other hother

/-- The tokens of a stream are left of others, and its nodes are tagged by their forms. -/
structure Stream.Formed (ts : List Token) (s : Stream) : Prop where
  tokens : s.tokens ⊆ ts
  nodes : Nodes.Formed ts s.nodes

namespace Stream.Formed

variable {s : Stream}

theorem drop (h : s.Formed ts) : s.drop.Formed ts :=
  ⟨fun _ ht => h.tokens (List.mem_of_mem_tail ht), h.nodes⟩

theorem add (h : s.Formed ts) (p : Properties) {node : Node} (hnode : node.Formed ts) : (s.add p node).2.Formed ts :=
  ⟨h.tokens, h.nodes.push hnode⟩

theorem addPlain (h : s.Formed ts) {node : Node} (hnode : node.Formed ts) : (s.addPlain node).2.Formed ts :=
  h.add _ hnode

theorem finish (h : s.Formed ts) (number : Nat) {node : Node} (hnode : node.Formed ts) :
    (s.finish number node).Formed ts :=
  ⟨h.tokens, h.nodes.set hnode number⟩

/-- The next token is one of the stream, or the fault it ends in. -/
theorem next (h : s.Formed ts) : Ends (Misread ts) (· ∈ ts) s.next := by
  unfold Stream.next
  split
  · next f rest hts => exact Misread.token (h.tokens (by rw [hts]; exact List.mem_cons_self ..))
  · next token rest hne hts => exact h.tokens (by rw [hts]; exact List.mem_cons_self ..)
  · exact Misread.malformed

/-- Where no tag is written, none is read. -/
theorem properties (h : s.Formed ts) (htags : Untagged ts) (handles : Handles) :
    Ends (Misread ts) (fun found => found.1.tag = none ∧ found.2.Formed ts) (s.properties handles) := by
  unfold Stream.properties
  refine h.next.bind fun token htoken => ?_
  split
  · refine h.drop.next.bind fun second hsecond => ?_
    split
    · exact absurd hsecond (htags _ _)
    · exact ⟨rfl, h.drop⟩
  · exact absurd htoken (htags _ _)
  · exact ⟨rfl, h⟩

end Stream.Formed

theorem Properties.tagOr_of_none {p : Properties} (hp : p.tag = none) (otherwise : Tag) :
    p.tagOr otherwise = otherwise := by
  unfold Properties.tagOr
  rw [hp]

/-- Without a tag, a scalar is tagged by its form. -/
theorem formed_scalar {p : Properties} (hp : p.tag = none) {text : Text} {plain : Bool}
    (htoken : Token.scalar text plain ∈ ts) : (Node.scalar (p.scalarTag text plain) text).Formed ts := by
  unfold Properties.scalarTag
  rw [Properties.tagOr_of_none hp, hp]
  cases plain with
  | false => exact Or.inr (Or.inl rfl)
  | true => exact Or.inr (Or.inr ⟨htoken, rfl⟩)

/-! ## One node -/

/-- A computation on a stream leaves its nodes tagged by their forms. -/
def Reads (ts : List Token) {α : Type} (read : Stream → Except Fault (α × Stream)) : Prop :=
  ∀ s : Stream, s.Formed ts → Ends (Misread ts) (fun found => found.2.Formed ts) (read s)

/-- All that reads nodes leaves them tagged by their forms. -/
structure ReadsAll (ts : List Token) (handles : Handles) (fuel : Nat) : Prop where
  node : ∀ place, Reads ts (node handles fuel place)
  optional : ∀ place ends, Reads ts (optional handles fuel place ends)
  valuePart : ∀ place ends, Reads ts (valuePart handles fuel place ends)
  blockItems : Reads ts (blockItems handles fuel)
  looseItems : Reads ts (looseItems handles fuel)
  blockEntries : Reads ts (blockEntries handles fuel)
  flowItems : ∀ first, Reads ts (flowItems handles fuel first)
  flowEntries : ∀ first, Reads ts (flowEntries handles fuel first)

theorem ReadsAll.zero (handles : Handles) : ReadsAll ts handles 0 where
  node place s hs := by rw [Yaml.node]; exact ends_malformed
  optional place ends s hs := by rw [Yaml.optional]; exact ends_malformed
  valuePart place ends s hs := by rw [Yaml.valuePart]; exact ends_malformed
  blockItems s hs := by rw [Yaml.blockItems]; exact ends_malformed
  looseItems s hs := by rw [Yaml.looseItems]; exact ends_malformed
  blockEntries s hs := by rw [Yaml.blockEntries]; exact ends_malformed
  flowItems first s hs := by rw [Yaml.flowItems]; exact ends_malformed
  flowEntries first s hs := by rw [Yaml.flowEntries]; exact ends_malformed

/-- An entry in flow style is the first one or stands behind a comma. -/
theorem ends_comma {α : Type} {P : α → Prop} {s : Stream} {first comma : Bool} {f : Stream → Except Fault α}
    (hs : s.Formed ts) (hf : ∀ s : Stream, s.Formed ts → Ends (Misread ts) P (f s)) :
    Ends (Misread ts) P
      (if first = true then do
        let s ← pure s
        f s
      else if comma = true then do
        let s ← pure s.drop
        f s
      else do
        let s ← malformed
        f s) := by
  split
  · exact hf s hs
  · split
    · exact hf s.drop hs.drop
    · exact ends_malformed

/-- A collection is begun as an empty node, its parts are read, and it is put in its place. -/
theorem ends_collection {α : Type} {read : Stream → Except Fault (α × Stream)} {node : α → Node}
    (hread : Reads ts read) (hnode : ∀ parts, (node parts).Formed ts) {s : Stream} (hs : s.Formed ts)
    (p : Properties) :
    Ends (Misread ts) (fun found : Nat × Stream => found.2.Formed ts) (do
      let (parts, behind) ← read (s.add p .empty).2
      Except.ok ((s.add p .empty).1, behind.finish (s.add p .empty).1 (node parts))) := by
  refine (hread _ (hs.add p Node.formed_empty)).bind fun found hfound => ?_
  exact Stream.Formed.finish hfound _ (hnode _)

section

variable {handles : Handles} {fuel : Nat} (ih : ReadsAll ts handles fuel)
include ih

theorem ReadsAll.optional_succ (place : Place) (ends : Token → Bool) :
    Reads ts (Yaml.optional handles (fuel + 1) place ends) := by
  intro s hs
  rw [Yaml.optional]
  refine hs.next.bind fun token htoken => ?_
  split
  · exact hs.addPlain Node.formed_empty
  · exact ih.node place _ hs

theorem ReadsAll.valuePart_succ (place : Place) (ends : Token → Bool) :
    Reads ts (Yaml.valuePart handles (fuel + 1) place ends) := by
  intro s hs
  rw [Yaml.valuePart]
  refine hs.next.bind fun token htoken => ?_
  split
  · exact ih.optional place ends _ hs.drop
  · exact hs.addPlain Node.formed_empty

theorem ReadsAll.blockItems_succ : Reads ts (Yaml.blockItems handles (fuel + 1)) := by
  intro s hs
  rw [Yaml.blockItems]
  refine hs.next.bind fun token htoken => ?_
  split
  · refine (ih.optional .block endsItem _ hs.drop).bind fun found hfound => ?_
    exact (ih.blockItems _ hfound).bind fun others hothers => hothers
  · exact hs.drop
  · exact ends_malformed

theorem ReadsAll.looseItems_succ : Reads ts (Yaml.looseItems handles (fuel + 1)) := by
  intro s hs
  rw [Yaml.looseItems]
  refine hs.next.bind fun token htoken => ?_
  split
  · refine (ih.optional .block endsLooseItem _ hs.drop).bind fun found hfound => ?_
    exact (ih.looseItems _ hfound).bind fun others hothers => hothers
  · exact hs

theorem ReadsAll.blockEntries_succ : Reads ts (Yaml.blockEntries handles (fuel + 1)) := by
  intro s hs
  rw [Yaml.blockEntries]
  refine hs.next.bind fun token htoken => ?_
  split
  · refine (ih.optional .entry endsBlockPart _ hs.drop).bind fun key hkey => ?_
    refine (ih.valuePart .entry endsBlockPart _ hkey).bind fun value hvalue => ?_
    exact (ih.blockEntries _ hvalue).bind fun others hothers => hothers
  · exact hs.drop
  · exact ends_malformed

theorem ReadsAll.flowItems_succ (first : Bool) : Reads ts (Yaml.flowItems handles (fuel + 1) first) := by
  intro s hs
  rw [Yaml.flowItems]
  refine hs.next.bind fun token htoken => ?_
  split
  · exact hs.drop
  · extract_lets more
    refine ends_comma hs fun s hs => ?_
    show Ends _ _ (more s)
    simp only [more]
    refine hs.next.bind fun second hsecond => ?_
    split
    · exact hs.drop
    · -- A pair is a mapping of its own, begun before its key.
      refine (ih.optional .flow endsPairKey _ (hs.drop.addPlain Node.formed_empty)).bind fun key hkey => ?_
      refine (ih.valuePart .flow endsPairValue _ hkey).bind fun value hvalue => ?_
      have hpair : (Node.mapping .map [(key.1, value.1)]).Formed ts := rfl
      exact (ih.flowItems false _ (Stream.Formed.finish hvalue _ hpair)).bind fun others hothers => hothers
    · refine (ih.node .flow _ hs).bind fun item hitem => ?_
      exact (ih.flowItems false _ hitem).bind fun others hothers => hothers

theorem ReadsAll.flowEntries_succ (first : Bool) : Reads ts (Yaml.flowEntries handles (fuel + 1) first) := by
  intro s hs
  rw [Yaml.flowEntries]
  refine hs.next.bind fun token htoken => ?_
  split
  · exact hs.drop
  · extract_lets more
    refine ends_comma hs fun s hs => ?_
    show Ends _ _ (more s)
    simp only [more]
    refine hs.next.bind fun second hsecond => ?_
    split
    · exact hs.drop
    · refine (ih.optional .flow endsFlowKey _ hs.drop).bind fun key hkey => ?_
      refine (ih.valuePart .flow endsFlowValue _ hkey).bind fun value hvalue => ?_
      exact (ih.flowEntries false _ hvalue).bind fun others hothers => hothers
    · refine (ih.node .flow _ hs).bind fun key hkey => ?_
      exact (ih.flowEntries false _ (Stream.Formed.addPlain hkey Node.formed_empty)).bind fun others hothers => hothers

theorem ReadsAll.node_succ (htags : Untagged ts) (place : Place) : Reads ts (Yaml.node handles (fuel + 1) place) := by
  intro s hs
  rw [Yaml.node]
  refine hs.next.bind fun token htoken => ?_
  split
  · -- An alias is a node that is known already.
    split
    · exact hs.drop
    · exact ends_malformed
  · refine (hs.properties htags handles).bind fun found hfound => ?_
    obtain ⟨p, s⟩ := found
    obtain ⟨hp, hs⟩ := hfound
    dsimp only at hp hs ⊢
    have hsequence : ∀ items, (Node.sequence (p.tagOr .seq) items).Formed ts := fun _ => Properties.tagOr_of_none hp _
    have hmapping : ∀ es, (Node.mapping (p.tagOr .map) es).Formed ts := fun _ => Properties.tagOr_of_none hp _
    have hempty : (Node.scalar (p.tagOr .null) []).Formed ts := Or.inl (Properties.tagOr_of_none hp _)
    refine hs.next.bind fun second hsecond => ?_
    split
    · exact ends_guard (hs.drop.add p (formed_scalar hp hsecond))
    · exact ends_guard (ends_collection (ih.flowItems true) hsequence hs.drop p)
    · exact ends_guard (ends_collection (ih.flowEntries true) hmapping hs.drop p)
    · exact ends_guard (ends_collection ih.blockItems hsequence hs.drop p)
    · exact ends_guard (ends_collection ih.blockEntries hmapping hs.drop p)
    · -- No token of a node: a sequence without indentation, or an anchor with nothing behind it.
      refine ends_ite (ends_guard ?_) (ends_ite (ends_guard ?_) ends_malformed)
      · exact ends_collection ih.looseItems hsequence hs p
      · exact hs.add p hempty

theorem ReadsAll.succ (htags : Untagged ts) : ReadsAll ts handles (fuel + 1) where
  node := ih.node_succ htags
  optional := ih.optional_succ
  valuePart := ih.valuePart_succ
  blockItems := ih.blockItems_succ
  looseItems := ih.looseItems_succ
  blockEntries := ih.blockEntries_succ
  flowItems := ih.flowItems_succ
  flowEntries := ih.flowEntries_succ

end

/-- **Nodes are tagged by their forms**, whatever reads them. -/
theorem readsAll (htags : Untagged ts) (handles : Handles) (fuel : Nat) : ReadsAll ts handles fuel := by
  -- All that reads nodes calls the rest of it with one unit of fuel less.
  induction fuel with
  | zero => exact .zero handles
  | succ fuel ih => exact ih.succ htags

/-! ## Documents -/

theorem directives_ends (versioned : Bool) (handles : Handles) {us : List Token} (hus : us ⊆ ts) :
    Ends (Misread ts) (fun found => found.2 ⊆ ts) (directives versioned handles us) := by
  induction us generalizing versioned handles with
  | nil => exact hus
  | cons token us ih =>
      have htail : us ⊆ ts := fun _ h => hus (List.mem_cons_of_mem _ h)
      cases token
      case version major =>
        rw [directives]
        exact ends_ite Misread.malformed (ih true handles htail)
      case tagHandle handle start =>
        rw [directives]
        exact ends_ite Misread.malformed (ih versioned _ htail)
      case directive =>
        rw [directives]
        exact ih versioned handles htail
      all_goals exact hus

theorem dropDocumentEnds_subset (us : List Token) : dropDocumentEnds us ⊆ us := by
  induction us with
  | nil => exact List.Subset.refl _
  | cons token us ih =>
      cases token
      case documentEnd => exact fun _ h => List.mem_cons_of_mem _ (ih h)
      all_goals exact List.Subset.refl _

/-- A stream of which nothing was read. -/
theorem Stream.formed_start {us : List Token} (hus : us ⊆ ts) : ({ tokens := us } : Stream).Formed ts := by
  refine ⟨hus, ?_⟩
  intro n node hnode
  cases hnode

/-- The nodes of a document, if there is one, are tagged by their forms. -/
def Known (ts : List Token) (found : Option Document) : Prop := ∀ d, found = some d → d.2.Formed ts

theorem known_some {r : Except Fault Document} (h : Ends (Misread ts) (fun d => d.2.Formed ts) r) :
    Ends (Misread ts) (Known ts) (r.map some) := by
  refine h.map fun d hd => ?_
  rintro _ ⟨⟩
  exact hd

theorem markedDocument?_ends (htags : Untagged ts) : Ends (Misread ts) (Known ts) (markedDocument? ts) := by
  have hdrop := Stream.formed_start (dropDocumentEnds_subset ts)
  unfold markedDocument?
  refine hdrop.next.bind fun token htoken => ?_
  split
  · exact nofun
  · refine (directives_ends false [] hdrop.tokens).bind fun found hfound => ?_
    have hbehind := Stream.formed_start hfound
    refine hbehind.next.bind fun mark hmark => ?_
    split
    · exact known_some ((readsAll htags _ _).optional .block endsDocument _ hbehind.drop)
    · exact Misread.malformed

theorem firstDocument?_ends (htags : Untagged ts) : Ends (Misread ts) (Known ts) (firstDocument? ts) := by
  have hstart := Stream.formed_start (List.Subset.refl ts)
  unfold firstDocument?
  refine hstart.next.bind fun token htoken => ?_
  split
  · exact nofun
  · exact markedDocument?_ends htags
  · exact markedDocument?_ends htags
  · exact markedDocument?_ends htags
  · exact markedDocument?_ends htags
  · exact known_some ((readsAll htags _ _).node .block _ hstart)

/-- **A stream without tags** holds a document whose nodes are tagged by their forms, or none, or it is refused. -/
theorem documentOf_ends (htags : Untagged ts) :
    Ends (Misread ts) (fun found => ∀ d, found = some d → Nodes.Formed ts d.2) (documentOf ts) := by
  unfold documentOf
  refine (firstDocument?_ends htags).bind fun found hfound => ?_
  cases found with
  | none => exact nofun
  | some d =>
      have hd : d.2.Formed ts := hfound d rfl
      refine hd.next.bind fun token htoken => ?_
      extract_lets behind
      have hbehind : behind ⊆ ts := by
        simp only [behind]
        split
        · exact hd.drop.tokens
        · exact hd.tokens
      have hlast := Stream.formed_start fun _ h => hbehind (dropDocumentEnds_subset behind h)
      refine hlast.next.bind fun mark hmark => ?_
      split
      · rintro _ ⟨⟩
        exact hd.nodes
      · exact Misread.malformed

end StepForge.Yaml
