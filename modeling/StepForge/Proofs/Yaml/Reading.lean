import StepForge.Proofs.Results
import StepForge.Proofs.Yaml.Nodes
import StepForge.Yaml.Reader

/-!
# `StepForge.Proofs.Yaml.Reading` — why a YAML text has no value

The nodes of a stream without tags are tagged by their forms, and stay so while mappings are merged. So a node that
is read as a scalar is one, and its text is that of a token. A fault other than a malformed text then comes from a
token that could not be read or from a plain scalar that is not what its form says.

## Contents
- `Keeps` — computations on nodes that leave them tagged by their forms.
- `flatten_keeps`, `meet_keeps`, `fill_keeps` — merges, nodes that are met, and collections.
- `contentsOf_ends` — what all nodes of a document hold.
- `read_error_cases` — why a text has no value.
- `Sound`, `Sound.eq_malformed` — texts that are malformed or have a value.
-/

namespace StepForge.Yaml

variable {ts : List Token}

/-- A computation on nodes leaves them tagged by their forms. -/
def Keeps (ts : List Token) {α : Type} (m : Reading α) : Prop :=
  ∀ w : Work, w.nodes.Formed ts → Ends (Misread ts) (fun found => found.2.nodes.Formed ts) (m.run w)

namespace Keeps

variable {α β : Type}

theorem pure (a : α) : Keeps ts (Pure.pure a : Reading α) := fun _ hw => hw

theorem bind {m : Reading α} {f : α → Reading β} (hm : Keeps ts m) (hf : ∀ a, Keeps ts (f a)) :
    Keeps ts (m >>= f) := by
  intro w hw
  exact Ends.bind (hm w hw) fun found hfound => hf found.1 found.2 hfound

theorem refuse : Keeps ts (refuse : Reading α) := fun _ _ => Misread.malformed

theorem get : Keeps ts (MonadState.get : Reading Work) := fun _ hw => hw

theorem changed {f : Work → Work} (hf : ∀ w : Work, w.nodes.Formed ts → (f w).nodes.Formed ts) :
    Keeps ts (modify f : Reading Unit) := fun w hw => hf w hw

end Keeps

/-! ## Nodes -/

theorem Nodes.Formed.getD {nodes : Nodes} (h : Nodes.Formed ts nodes) (n : Nat) :
    (nodes[n]?.getD .empty).Formed ts := by
  cases hn : nodes[n]? with
  | none => exact Node.formed_empty
  | some node => exact h n node hn

theorem nodeAt_keeps (n : Nat) : Keeps ts (nodeAt n) := Keeps.get.bind fun _ => Keeps.pure _

theorem entriesAt_keeps (n : Nat) : Keeps ts (entriesAt n) := by
  refine (nodeAt_keeps n).bind fun node => ?_
  cases node <;> exact Keeps.pure _

theorem putNode_ends {w : Work} (hw : w.nodes.Formed ts) (n : Nat) {node : Node} (hnode : node.Formed ts) :
    Ends (Misread ts) (fun found => found.2.nodes.Formed ts) ((putNode n node).run w) := hw.set hnode n

theorem run_nodeAt {α : Type} {w : Work} {n : Nat} {node : Node} {f : Node → Reading α}
    (hn : w.nodes[n]?.getD .empty = node) : (nodeAt n >>= f).run w = (f node).run w := by
  subst hn
  rfl

/-- A computation that begins with a node of which more is known than its form. -/
theorem keeps_nodeAt {α : Type} {n : Nat} {f : Node → Reading α}
    (h : ∀ w : Work, w.nodes.Formed ts → ∀ node : Node, node.Formed ts → w.nodes[n]?.getD .empty = node →
      Ends (Misread ts) (fun found => found.2.nodes.Formed ts) ((f node).run w)) :
    Keeps ts (nodeAt n >>= f) :=
  fun w hw => h w hw _ (hw.getD n) rfl

/-- A computation that begins with the tag of a node. -/
theorem keeps_tagAt {α : Type} {n : Nat} {f : Tag → Reading α}
    (h : ∀ w : Work, w.nodes.Formed ts → ∀ node : Node, node.Formed ts → w.nodes[n]?.getD .empty = node →
      Ends (Misread ts) (fun found => found.2.nodes.Formed ts) ((f node.tag).run w)) :
    Keeps ts (tagAt n >>= f) :=
  fun w hw => h w hw _ (hw.getD n) rfl

theorem putEntries_keeps (n : Nat) (entries : List (Nat × Nat)) : Keeps ts (putEntries n entries) := by
  refine keeps_nodeAt fun w hw node hnode hn => ?_
  cases node with
  | mapping tag es => exact putNode_ends hw n (show tag = .map from hnode)
  | scalar tag text => exact hw
  | sequence tag items => exact hw

/-- A value key is a scalar, which may become a text. -/
theorem Node.Formed.retagged {node : Node} (h : node.Formed ts) (hvalue : node.tag = .value) :
    (node.withTag .str).Formed ts := by
  cases node with
  | scalar tag text => exact Or.inr (Or.inl rfl)
  | sequence tag items =>
      cases (show tag = .seq from h)
      cases hvalue
  | mapping tag es =>
      cases (show tag = .map from h)
      cases hvalue

/-! ## Merges -/

section

variable {flattenOther : Nat → Reading Unit} (hflatten : ∀ n, Keeps ts (flattenOther n))
include hflatten

theorem mergedFrom_keeps (n : Nat) : Keeps ts (mergedFrom flattenOther n) := by
  refine (nodeAt_keeps n).bind fun node => ?_
  cases node with
  | mapping tag es => exact (hflatten n).bind fun _ => entriesAt_keeps n
  | scalar tag text => exact Keeps.refuse
  | sequence tag items => exact Keeps.refuse

theorem mergedFromAll_keeps (ns : List Nat) : Keeps ts (mergedFromAll flattenOther ns) := by
  induction ns with
  | nil => exact Keeps.pure _
  | cons n ns ih => exact (mergedFrom_keeps hflatten n).bind fun _ => ih.bind fun _ => Keeps.pure _

theorem mergesOf_keeps (n : Nat) (kept es : List (Nat × Nat)) : Keeps ts (mergesOf flattenOther n kept es) := by
  -- The induction is on the entries that are still to be looked at; a merge is taken out in front of the rest.
  induction es generalizing kept with
  | nil => exact Keeps.pure _
  | cons e es ih =>
      obtain ⟨k, v⟩ := e
      rw [mergesOf]
      refine keeps_tagAt fun w hw node hnode hk => ?_
      split
      · refine Keeps.bind (putEntries_keeps n _) (fun _ => (nodeAt_keeps v).bind fun other => ?_) w hw
        have hbehind : ∀ merged : List (Nat × Nat), Keeps ts (do
            let others ← if (← entriesAt n) = kept.reverse ++ es then mergesOf flattenOther n kept es else pure []
            return merged ++ others) := by
          intro merged
          refine (entriesAt_keeps n).bind fun left => ?_
          dsimp only
          split
          · exact (ih kept).bind fun _ => Keeps.pure _
          · exact Keeps.pure _
        cases other with
        | sequence tag items => exact (mergedFromAll_keeps hflatten items).bind hbehind
        | scalar tag text => exact (mergedFrom_keeps hflatten v).bind hbehind
        | mapping tag es => exact (mergedFrom_keeps hflatten v).bind hbehind
      · extract_lets behind
        split
        · -- Only a scalar can be a value key, so a text is put in the place of a scalar.
          next hvalue =>
            subst hk
            exact ih _ _ (hw.set (hnode.retagged hvalue) k)
        · exact ih _ w hw

end

/-- **Merges keep the tags of nodes.** -/
theorem flatten_keeps (fuel n : Nat) : Keeps ts (flatten fuel n) := by
  induction fuel generalizing n with
  | zero => exact Keeps.refuse
  | succ fuel ih =>
      refine (entriesAt_keeps n).bind fun es => (mergesOf_keeps ih n [] es).bind fun merged => ?_
      split
      · exact (entriesAt_keeps n).bind fun es => putEntries_keeps n _
      · exact Keeps.pure _

/-! ## Scalars -/

/-- A node that is read as a scalar is one, or there is none. -/
theorem exists_scalar_of_emptyContent? {node : Node} (hnode : node.Formed ts)
    (htag : emptyContent? node.tag = none) : ∃ text, node = .scalar node.tag text := by
  cases node with
  | scalar tag text => exact ⟨text, rfl⟩
  | sequence tag items =>
      cases (show tag = .seq from hnode)
      cases htag
  | mapping tag es =>
      cases (show tag = .map from hnode)
      cases htag

theorem scalarAt_eq {w : Work} {n : Nat} {tag : Tag} {text : Text} (hn : w.nodes[n]?.getD .empty = .scalar tag text) :
    (scalarAt n tag).run w = (scalarValue tag text).map fun v => (v, w) := by
  have htext : (scalarText (w.nodes.size + 1) n).run w = .ok (text, w) := by
    rw [scalarText, run_nodeAt hn]
    rfl
  unfold scalarAt
  rw [StateT.run_bind, StateT.run_get, pure_bind, StateT.run_bind, htext]
  simp only [bind, Except.bind]
  refine (run_nodeAt hn).trans ?_
  cases tag <;> rfl

/-- A plain scalar is read as its form says; a fault is one of its text. -/
theorem scalarValue_ends {tag : Tag} {text : Text} (hnode : (Node.scalar tag text).Formed ts) :
    Ends (Misread ts) (fun _ => True) (scalarValue tag text) := by
  rcases hnode with rfl | rfl | ⟨htoken, rfl⟩
  · trivial
  · trivial
  · cases hvalue : scalarValue (Tag.ofPlain text) text with
    | ok v => trivial
    | error f => exact Misread.scalar htoken hvalue

theorem putContent_keeps (n : Nat) (c : Content) : Keeps ts (putContent n c) := Keeps.changed fun _ hw => hw

/-- **A node that is met** is read if it is a scalar. -/
theorem meet_keeps (n : Nat) : Keeps ts (meet n) := by
  unfold meet
  refine Keeps.get.bind fun known => ?_
  split
  · exact Keeps.pure _
  · refine keeps_tagAt fun w hw node hnode hn => ?_
    split
    · refine Keeps.bind (putContent_keeps n _) (fun _ => ?_) w hw
      exact Keeps.changed fun _ hw => hw
    · next htag =>
        obtain ⟨text, hscalar⟩ := exists_scalar_of_emptyContent? hnode htag
        have hread : Ends (Misread ts) (fun found => found.2 = w) ((scalarAt n node.tag).run w) := by
          rw [scalarAt_eq (hn.trans hscalar)]
          rw [hscalar] at hnode
          exact (scalarValue_ends hnode).map fun _ _ => rfl
        refine Ends.bind hread fun found hfound => ?_
        refine putContent_keeps n _ found.2 ?_
        rw [hfound]
        exact hw

theorem meetAll_keeps (ns : List Nat) : Keeps ts (meetAll ns) := by
  induction ns with
  | nil => exact Keeps.pure _
  | cons n ns ih => exact (meet_keeps n).bind fun _ => ih

theorem meetKey_keeps (n : Nat) : Keeps ts (meetKey n) := by
  refine (meet_keeps n).bind fun _ => Keeps.get.bind fun known => ?_
  split
  · exact Keeps.pure _
  · exact Keeps.refuse

theorem meetEntries_keeps (es : List (Nat × Nat)) : Keeps ts (meetEntries es) := by
  induction es with
  | nil => exact Keeps.pure _
  | cons e es ih => exact (meetKey_keeps e.1).bind fun _ => (meet_keeps e.2).bind fun _ => ih

/-! ## Collections -/

theorem pairsOf_keeps (ns : List Nat) : Keeps ts (pairsOf ns) := by
  induction ns with
  | nil => exact Keeps.pure _
  | cons n ns ih =>
      rw [pairsOf]
      refine (nodeAt_keeps n).bind fun node => ?_
      split
      · exact (meet_keeps _).bind fun _ => (meet_keeps _).bind fun _ => ih.bind fun _ => Keeps.pure _
      · exact Keeps.refuse

theorem entriesOf_keeps (n : Nat) : Keeps ts (entriesOf n) := by
  refine (nodeAt_keeps n).bind fun node => ?_
  split
  · refine Keeps.get.bind fun w => (flatten_keeps w.bound n).bind fun _ => (entriesAt_keeps n).bind fun es => ?_
    exact (meetEntries_keeps es).bind fun _ => Keeps.pure _
  · exact Keeps.refuse

/-- **A collection is read** with all of its parts, which are met. -/
theorem fill_keeps (n : Nat) : Keeps ts (fill n) := by
  refine (nodeAt_keeps n).bind fun node => ?_
  split
  · exact (meetAll_keeps _).bind fun _ => putContent_keeps n _
  · exact (pairsOf_keeps _).bind fun _ => putContent_keeps n _
  · exact (pairsOf_keeps _).bind fun _ => putContent_keeps n _
  · exact (entriesOf_keeps n).bind fun _ => putContent_keeps n _
  · exact (entriesOf_keeps n).bind fun _ => putContent_keeps n _
  · exact Keeps.refuse

theorem fillAll_keeps (ns : List Nat) : Keeps ts (fillAll ns) := by
  induction ns with
  | nil => exact Keeps.pure _
  | cons n ns ih => exact (fill_keeps n).bind fun _ => ih

theorem fillWaiting_keeps (fuel : Nat) : Keeps ts (fillWaiting fuel) := by
  induction fuel with
  | zero => exact Keeps.pure _
  | succ fuel ih =>
      rw [fillWaiting]
      refine Keeps.get.bind fun w => ?_
      extract_lets waiting
      split
      · exact Keeps.pure _
      · refine Keeps.bind (Keeps.changed ?_) fun _ => (fillAll_keeps _).bind fun _ => ih
        intro w hw
        exact hw

/-- **What the nodes of a document hold**: of nodes that are tagged by their forms, only plain scalars can be at
fault. -/
theorem contentsOf_ends {root : Nat} {nodes : Nodes} (hnodes : nodes.Formed ts) :
    Ends (Misread ts) (fun _ => True) (contentsOf root nodes) := by
  have hread : Keeps ts (meet root >>= fun _ => fillWaiting (nodes.size + 1)) :=
    (meet_keeps root).bind fun _ => fillWaiting_keeps _
  unfold contentsOf
  exact Ends.bind (hread _ hnodes) fun _ _ => trivial

/-! ## A whole text -/

/-- **Why a text without tags has no value**: it is malformed, it ends in a token that cannot be read, or one of its
plain scalars is not what its form says. -/
theorem read_error_cases {t : Text} {f : Fault} (htags : Untagged (tokens t)) (h : read t = .error f) :
    Misread (tokens t) f := by
  have hread : Ends (Misread (tokens t)) (fun _ => True) (read t) := by
    unfold read
    generalize tokens t = us at htags
    split
    · refine (documentOf_ends htags).bind fun found hfound => ?_
      cases found with
      | none => trivial
      | some d => exact (contentsOf_ends (hfound d rfl)).bind fun _ _ => trivial
    · exact Misread.malformed
  rw [h] at hread
  exact hread

/-- A text in which nothing can be at fault but its structure: no tags, no tokens with a fault of their own, and only
plain scalars that are what their forms say. -/
structure Sound (t : Text) : Prop where
  untagged : Untagged (tokens t)
  tokens : ∀ f, .fault f ∈ tokens t → f = .malformed
  scalars : ∀ text f, .scalar text true ∈ Yaml.tokens t → scalarValue (Tag.ofPlain text) text = .error f →
    f = .malformed

/-- **A sound text** is malformed or has a value. -/
theorem Sound.eq_malformed {t : Text} {f : Fault} (h : Sound t) (hread : read t = .error f) : f = .malformed := by
  cases read_error_cases h.untagged hread with
  | malformed => rfl
  | token hfault => exact h.tokens f hfault
  | scalar hscalar hvalue => exact h.scalars _ f hscalar hvalue

end StepForge.Yaml
