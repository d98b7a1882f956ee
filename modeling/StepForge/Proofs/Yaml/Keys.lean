import StepForge.Proofs.Definition.Rewrites
import StepForge.Proofs.Yaml.Reading

/-!
# `StepForge.Proofs.Yaml.Keys` — the keys of a mapping that was read

A mapping has no key twice, so the entry of a key is the one that is found under it. The entries of a mapping node
are put together one by one, each under a key of its own. What is read as a scalar is no mapping; this is kept
while the nodes of a document are met and read.

## Contents
- `Value.DistinctKeys`, `Value.get?_eq_some_iff` — entries under different keys.
- `pairwise_distinct` — entries put together are under different keys.
- `Contents.Plain`, `Stays`, `contentsOf_plain` — scalars are no mappings.
- `distinctKeys_of_read` — the value of a text.
-/

namespace StepForge

namespace Value

/-- No two entries have one key. -/
def DistinctKeys (es : List (Value × Value)) : Prop := (es.map (·.1)).Pairwise fun a b => sameKey a b = false

/-- **The entry of a text key** is the one that is found under it. -/
theorem get?_eq_some_iff {es : List (Value × Value)} (h : DistinctKeys es) {name : Text} {x : Value} :
    get? (str name) es = some x ↔ (str name, x) ∈ es := by
  induction es with
  | nil => simp [get?]
  | cons e es ih =>
      obtain ⟨k, y⟩ := e
      obtain ⟨hfirst, hes⟩ := List.pairwise_cons.1 h
      by_cases hk : k = str name
      · subst hk
        rw [get?_cons_self, Option.some.injEq, List.mem_cons]
        constructor
        · rintro rfl
          exact Or.inl rfl
        · rintro (heq | hmem)
          · cases heq
            rfl
          · have hother := hfirst _ (List.mem_map_of_mem hmem)
            rw [sameKey_str.2 rfl] at hother
            cases hother
      · rw [get?_cons_ne hk, ih hes, List.mem_cons]
        refine (or_iff_right ?_).symm
        intro heq
        cases heq
        exact hk rfl

/-- Tying a knot keeps the keys. -/
theorem keys_tieEntries (name : Nat) (whole : Value) (es : List (Value × Value)) :
    (tieEntries name whole es).map (·.1) = es.map (·.1) := by
  induction es with
  | nil => rfl
  | cons e es ih => exact congrArg (e.1 :: ·) ih

end Value

namespace Yaml

/-! ## Entries put together -/

/-- An entry keeps its key when another value is put under it. -/
theorem mem_insertKeyed {α : Type} {e f : Keyed α} {es : List (Keyed α)} (h : f ∈ insertKeyed e es) :
    f = e ∨ ∃ g ∈ es, f.number = g.number ∧ f.key = g.key := by
  induction es with
  | nil => exact Or.inl (List.mem_singleton.1 h)
  | cons g es ih =>
      rw [insertKeyed] at h
      split at h
      · rcases List.mem_cons.1 h with rfl | h
        · exact Or.inr ⟨g, List.mem_cons_self, rfl, rfl⟩
        · exact Or.inr ⟨f, List.mem_cons_of_mem _ h, rfl, rfl⟩
      · rcases List.mem_cons.1 h with rfl | h
        · exact Or.inr ⟨f, List.mem_cons_self, rfl, rfl⟩
        · rcases ih h with rfl | ⟨m, hm, heq⟩
          · exact Or.inl rfl
          · exact Or.inr ⟨m, List.mem_cons_of_mem _ hm, heq⟩

/-- An entry is put behind those whose keys are others. -/
theorem pairwise_insertKeyed {α : Type} (e : Keyed α) {es : List (Keyed α)}
    (h : es.Pairwise fun a b => a.same b = false) : (insertKeyed e es).Pairwise fun a b => a.same b = false := by
  induction es with
  | nil => exact List.pairwise_singleton _ e
  | cons g es ih =>
      obtain ⟨hg, hes⟩ := List.pairwise_cons.1 h
      rw [insertKeyed]
      by_cases hsame : g.same e = true
      · rw [if_pos hsame]
        exact List.pairwise_cons.2 ⟨hg, hes⟩
      · rw [if_neg hsame]
        refine List.pairwise_cons.2 ⟨?_, ih hes⟩
        intro f hf
        rcases mem_insertKeyed hf with rfl | ⟨m, hm, hnumber, hkey⟩
        · simpa using hsame
        · have hother := hg m hm
          unfold Keyed.same at hother ⊢
          rw [hnumber, hkey]
          exact hother

/-- **Entries put together** are under different keys. -/
theorem pairwise_distinct {α : Type} (es : List (Keyed α)) : (distinct es).Pairwise fun a b => a.same b = false := by
  unfold distinct
  suffices h : ∀ done : List (Keyed α), (done.Pairwise fun a b => a.same b = false) →
      (es.foldl (fun done e => insertKeyed e done) done).Pairwise fun a b => a.same b = false from
    h [] List.Pairwise.nil
  induction es with
  | nil => exact fun done hdone => hdone
  | cons e es ih => exact fun done hdone => ih _ (pairwise_insertKeyed e hdone)

theorem distinctKeys_entries (es : List (Keyed Value)) :
    Value.DistinctKeys ((distinct es).map fun e => (e.key, e.content)) := by
  unfold Value.DistinctKeys
  rw [List.map_map]
  refine List.pairwise_map.2 ((pairwise_distinct es).imp ?_)
  intro a b hab
  exact (Bool.or_eq_false_iff.1 hab).2

/-! ## Scalars -/

/-- What is held as a value is no mapping. -/
def Contents.Plain (contents : Contents) : Prop :=
  ∀ (n : Nat) (v : Value), contents[n]? = some (some (.value v)) → v.entries = []

/-- A computation on nodes after which values are no mappings if they were none before. -/
def Stays {α : Type} (m : Reading α) : Prop :=
  ∀ w : Work, w.contents.Plain → Ends (fun _ => True) (fun found => found.2.contents.Plain) (m.run w)

namespace Stays

variable {α β : Type}

theorem pure (a : α) : Stays (Pure.pure a : Reading α) := fun _ hw => hw

theorem bind {m : Reading α} {f : α → Reading β} (hm : Stays m) (hf : ∀ a, Stays (f a)) : Stays (m >>= f) :=
  fun w hw => Ends.bind (hm w hw) fun found hfound => hf found.1 found.2 hfound

theorem refuse : Stays (refuse : Reading α) := fun _ _ => trivial

theorem get : Stays (MonadState.get : Reading Work) := fun _ hw => hw

theorem changed {f : Work → Work} (hf : ∀ w : Work, w.contents.Plain → (f w).contents.Plain) :
    Stays (modify f : Reading Unit) := fun w hw => hf w hw

end Stays

theorem nodeAt_stays (n : Nat) : Stays (nodeAt n) := Stays.get.bind fun _ => Stays.pure _

theorem tagAt_stays (n : Nat) : Stays (tagAt n) := (nodeAt_stays n).bind fun _ => Stays.pure _

theorem entriesAt_stays (n : Nat) : Stays (entriesAt n) := by
  refine (nodeAt_stays n).bind fun node => ?_
  cases node <;> exact Stays.pure _

theorem putNode_stays (n : Nat) (node : Node) : Stays (putNode n node) := Stays.changed fun _ hw => hw

theorem putEntries_stays (n : Nat) (entries : List (Nat × Nat)) : Stays (putEntries n entries) := by
  refine (nodeAt_stays n).bind fun node => ?_
  cases node with
  | mapping tag es => exact putNode_stays n _
  | scalar tag text => exact Stays.pure _
  | sequence tag items => exact Stays.pure _

section

variable {flattenOther : Nat → Reading Unit} (hflatten : ∀ n, Stays (flattenOther n))
include hflatten

theorem mergedFrom_stays (n : Nat) : Stays (mergedFrom flattenOther n) := by
  refine (nodeAt_stays n).bind fun node => ?_
  cases node with
  | mapping tag es => exact (hflatten n).bind fun _ => entriesAt_stays n
  | scalar tag text => exact Stays.refuse
  | sequence tag items => exact Stays.refuse

theorem mergedFromAll_stays (ns : List Nat) : Stays (mergedFromAll flattenOther ns) := by
  induction ns with
  | nil => exact Stays.pure _
  | cons n ns ih => exact (mergedFrom_stays hflatten n).bind fun _ => ih.bind fun _ => Stays.pure _

theorem mergesOf_stays (n : Nat) (kept es : List (Nat × Nat)) : Stays (mergesOf flattenOther n kept es) := by
  induction es generalizing kept with
  | nil => exact Stays.pure _
  | cons e es ih =>
      obtain ⟨k, v⟩ := e
      rw [mergesOf]
      refine (tagAt_stays k).bind fun tag => ?_
      split
      · refine (putEntries_stays n _).bind fun _ => (nodeAt_stays v).bind fun other => ?_
        have hbehind : ∀ merged : List (Nat × Nat), Stays (do
            let others ← if (← entriesAt n) = kept.reverse ++ es then mergesOf flattenOther n kept es else pure []
            return merged ++ others) := by
          intro merged
          refine (entriesAt_stays n).bind fun left => ?_
          dsimp only
          split
          · exact (ih kept).bind fun _ => Stays.pure _
          · exact Stays.pure _
        cases other with
        | sequence tag items => exact (mergedFromAll_stays hflatten items).bind hbehind
        | scalar tag text => exact (mergedFrom_stays hflatten v).bind hbehind
        | mapping tag es => exact (mergedFrom_stays hflatten v).bind hbehind
      · extract_lets behind
        split
        · exact ((nodeAt_stays k).bind fun node => putNode_stays k _).bind fun _ => ih _
        · exact ih _

end

theorem flatten_stays (fuel n : Nat) : Stays (flatten fuel n) := by
  induction fuel generalizing n with
  | zero => exact Stays.refuse
  | succ fuel ih =>
      refine (entriesAt_stays n).bind fun es => (mergesOf_stays ih n [] es).bind fun merged => ?_
      split
      · exact (entriesAt_stays n).bind fun es => putEntries_stays n _
      · exact Stays.pure _

theorem ends_any {α : Type} (r : Except Fault α) : Ends (fun _ => True) (fun _ => True) r := by
  cases r <;> trivial

/-- A result of its own behind a computation that may fail. -/
theorem Ends.behind {α β : Type} {Q : β → Prop} {r : Except Fault α} {f : α → Except Fault β}
    (hf : ∀ a, Ends (fun _ => True) Q (f a)) : Ends (fun _ => True) Q (r >>= f) :=
  (ends_any r).bind fun a _ => hf a

/-- A value that is no mapping behind a computation that may fail. -/
theorem Ends.scalar {α : Type} {r : Except Fault α} {f : α → Except Fault Value}
    (hf : ∀ a, ∃ v : Value, f a = .ok v ∧ v.entries = []) :
    Ends (fun _ => True) (fun v => v.entries = []) (r >>= f) := by
  refine Ends.behind fun a => ?_
  obtain ⟨v, hv, hplain⟩ := hf a
  rw [hv]
  exact hplain

theorem intValue_plain (t : Text) : Ends (fun _ => True) (fun v => v.entries = []) (intValue t) := by
  unfold intValue
  split
  extract_lets finish
  have hfinish : ∀ n, ∃ v : Value, finish n = .ok v ∧ v.entries = [] := fun n => ⟨_, rfl, rfl⟩
  -- However the digits are read, an integer is made of them.
  repeat' split
  all_goals exact Ends.scalar hfinish

theorem floatValue_plain (t : Text) : Ends (fun _ => True) (fun v => v.entries = []) (floatValue t) := by
  unfold floatValue
  extract_lets w finish
  split
  · trivial
  · unfold finish
    split
    extract_lets last
    have hlast : ∀ x, ∃ v : Value, last x = .ok v ∧ v.entries = [] := fun x => ⟨_, rfl, rfl⟩
    split
    · exact Ends.scalar hlast
    · split
      · exact Ends.scalar hlast
      · split
        · exact Ends.behind fun parts => Ends.scalar hlast
        · exact Ends.scalar hlast

/-- **Every scalar has a value that is no mapping.** -/
theorem scalarValue_plain (tag : Tag) (t : Text) :
    Ends (fun _ => True) (fun v => v.entries = []) (scalarValue tag t) := by
  cases tag with
  | null => exact (rfl : Value.null.entries = [])
  | str => exact (rfl : (Value.str t).entries = [])
  | int => exact intValue_plain t
  | float => exact floatValue_plain t
  | bool =>
      show Ends _ _ (boolValue t)
      unfold boolValue
      extract_lets w
      split
      · exact (rfl : (Value.bool true).entries = [])
      · split
        · exact (rfl : (Value.bool false).entries = [])
        · trivial
  | timestamp =>
      show Ends _ _ (timestampValue t)
      unfold timestampValue
      split
      · trivial
      · extract_lets date
        split
        · exact Ends.scalar fun _ => ⟨.date date, rfl, rfl⟩
        · exact Ends.behind fun _ => Ends.behind fun _ => Ends.scalar fun _ => ⟨.moment _, rfl, rfl⟩
  | binary =>
      show Ends _ _ (binaryValue t)
      unfold binaryValue
      split
      · trivial
      · split
        · next bytes _ => exact (rfl : (Value.bytes bytes).entries = [])
        · trivial
  | _ => trivial

/-! ## Nodes that are met -/

/-- A node that is looked at stays as it is. -/
theorem valueEntry_looks (es : List (Nat × Nat)) (w : Work) :
    Ends (fun _ => True) (fun found => found.2 = w) (( valueEntry? es).run w) := by
  induction es with
  | nil => exact rfl
  | cons e es ih =>
      obtain ⟨k, v⟩ := e
      rw [ valueEntry?]
      show Ends _ _ (StateT.run (if (w.nodes[k]?.getD .empty).tag = .value then _ else _) w)
      split
      · exact rfl
      · exact ih

theorem scalarText_looks (fuel n : Nat) (w : Work) :
    Ends (fun _ => True) (fun found => found.2 = w) ((scalarText fuel n).run w) := by
  induction fuel generalizing n with
  | zero => trivial
  | succ fuel ih =>
      rw [scalarText, run_nodeAt rfl]
      split
      · exact rfl
      · refine Ends.bind (valueEntry_looks _ w) ?_
        rintro ⟨found, w⟩ rfl
        cases found with
        | none => trivial
        | some v => exact ih v
      · trivial

/-- A node that is read as a scalar gives a value that is no mapping. -/
theorem scalarAt_plain (n : Nat) (tag : Tag) (w : Work) :
    Ends (fun _ => True) (fun found => found.2 = w ∧ found.1.entries = []) ((scalarAt n tag).run w) := by
  unfold scalarAt
  refine Ends.bind (scalarText_looks _ n w) ?_
  rintro ⟨text, w⟩ rfl
  have hvalue : ∀ tag : Tag, Ends (fun _ => True) (fun found => found.2 = w ∧ found.1.entries = [])
      ((liftM (scalarValue tag text) : Reading Value).run w) := by
    intro tag
    have hplain := scalarValue_plain tag text
    cases hv : scalarValue tag text with
    | error f => trivial
    | ok v =>
        rw [hv] at hplain
        exact ⟨rfl, hplain⟩
  show Ends _ _ (StateT.run (nodeAt n >>= fun node => _) w)
  rw [run_nodeAt rfl]
  split
  · trivial
  · exact hvalue _

theorem Contents.Plain.set {contents : Contents} (h : contents.Plain) (n : Nat) {c : Content}
    (hc : ∀ v, c = .value v → v.entries = []) : Contents.Plain (contents.setIfInBounds n (some c)) := by
  intro m v hv
  rw [Array.getElem?_setIfInBounds] at hv
  split at hv
  · split at hv
    · exact hc v (Option.some.inj (Option.some.inj hv))
    · cases hv
  · exact h m v hv

/-- A collection may be noted. -/
theorem putContent_stays (n : Nat) {c : Content} (hc : ∀ v, c ≠ .value v) : Stays (putContent n c) :=
  Stays.changed fun _ hw => hw.set n fun v hv => absurd hv (hc v)

theorem emptyContent?_ne_value {tag : Tag} {c : Content} (h : emptyContent? tag = some c) (v : Value) :
    c ≠ .value v := by
  rintro rfl
  cases tag <;> cases h

/-- **A node that is met** is noted as a collection, or with a value that is none. -/
theorem meet_stays (n : Nat) : Stays (meet n) := by
  unfold meet
  refine Stays.get.bind fun known => ?_
  split
  · exact Stays.pure _
  · refine (tagAt_stays n).bind fun tag => ?_
    split
    · next c hc =>
        refine (putContent_stays n (emptyContent?_ne_value hc)).bind fun _ => Stays.changed fun _ hw => hw
    · intro w hw
      refine Ends.bind (scalarAt_plain n tag w) ?_
      rintro ⟨v, w⟩ ⟨rfl, hplain⟩
      exact hw.set n fun u hu => (Content.value.inj hu) ▸ hplain

theorem meetAll_stays (ns : List Nat) : Stays (meetAll ns) := by
  induction ns with
  | nil => exact Stays.pure _
  | cons n ns ih => exact (meet_stays n).bind fun _ => ih

theorem meetKey_stays (n : Nat) : Stays (meetKey n) := by
  refine (meet_stays n).bind fun _ => Stays.get.bind fun known => ?_
  split
  · exact Stays.pure _
  · exact Stays.refuse

theorem meetEntries_stays (es : List (Nat × Nat)) : Stays (meetEntries es) := by
  induction es with
  | nil => exact Stays.pure _
  | cons e es ih => exact (meetKey_stays e.1).bind fun _ => (meet_stays e.2).bind fun _ => ih

theorem pairsOf_stays (ns : List Nat) : Stays (pairsOf ns) := by
  induction ns with
  | nil => exact Stays.pure _
  | cons n ns ih =>
      rw [pairsOf]
      refine (nodeAt_stays n).bind fun node => ?_
      split
      · exact (meet_stays _).bind fun _ => (meet_stays _).bind fun _ => ih.bind fun _ => Stays.pure _
      · exact Stays.refuse

theorem entriesOf_stays (n : Nat) : Stays (entriesOf n) := by
  refine (nodeAt_stays n).bind fun node => ?_
  split
  · refine Stays.get.bind fun w => (flatten_stays w.bound n).bind fun _ => (entriesAt_stays n).bind fun es => ?_
    exact (meetEntries_stays es).bind fun _ => Stays.pure _
  · exact Stays.refuse

theorem fill_stays (n : Nat) : Stays (fill n) := by
  refine (nodeAt_stays n).bind fun node => ?_
  split
  · exact (meetAll_stays _).bind fun _ => putContent_stays n nofun
  · exact (pairsOf_stays _).bind fun _ => putContent_stays n nofun
  · exact (pairsOf_stays _).bind fun _ => putContent_stays n nofun
  · exact (entriesOf_stays n).bind fun _ => putContent_stays n nofun
  · exact (entriesOf_stays n).bind fun _ => putContent_stays n nofun
  · exact Stays.refuse

theorem fillAll_stays (ns : List Nat) : Stays (fillAll ns) := by
  induction ns with
  | nil => exact Stays.pure _
  | cons n ns ih => exact (fill_stays n).bind fun _ => ih

theorem fillWaiting_stays (fuel : Nat) : Stays (fillWaiting fuel) := by
  induction fuel with
  | zero => exact Stays.pure _
  | succ fuel ih =>
      rw [fillWaiting]
      refine Stays.get.bind fun w => ?_
      extract_lets waiting
      split
      · exact Stays.pure _
      · refine Stays.bind (Stays.changed ?_) fun _ => (fillAll_stays _).bind fun _ => ih
        intro w hw
        exact hw

/-- **What the nodes of a document hold** as a value is no mapping. -/
theorem contentsOf_plain {root : Nat} {nodes : Nodes} {contents : Contents} (h : contentsOf root nodes = .ok contents) :
    contents.Plain := by
  have hread : Stays (meet root >>= fun _ => fillWaiting (nodes.size + 1)) :=
    (meet_stays root).bind fun _ => fillWaiting_stays _
  have hstart : Contents.Plain (.replicate nodes.size none) := by
    intro n v hn
    rw [Array.getElem?_replicate] at hn
    split at hn
    · cases hn
    · cases hn
  have hends := hread ⟨nodes, .replicate nodes.size none, [], entryCount nodes + 1⟩ hstart
  unfold contentsOf at h
  obtain ⟨⟨_, w⟩, hrun, heq⟩ := bind_eq_ok_iff.1 h
  rw [hrun] at hends
  cases heq
  exact hends

/-! ## The value of a text -/

/-- What is woven of some content: a value that is held as such, or a collection, which may hold a name. -/
theorem collection_cases (weaveOne : Nat → Weaving Weave) (c : Content) (woven : Woven) :
    let x := ((collection weaveOne c).run woven).1
    (∃ v, c = .value v ∧ x = ⟨v, false⟩) ∨ (∃ items, x.value = .list items) ∨ (∃ members, x.value = .set members) ∨
      ∃ es, x.value = .map es ∧ Value.DistinctKeys es := by
  cases c with
  | value v => exact Or.inl ⟨v, rfl, rfl⟩
  | list items => exact Or.inr (Or.inl ⟨_, rfl⟩)
  | pairs entries => exact Or.inr (Or.inl ⟨_, rfl⟩)
  | set members => exact Or.inr (Or.inr (Or.inl ⟨_, rfl⟩))
  | map entries => exact Or.inr (Or.inr (Or.inr ⟨_, rfl, distinctKeys_entries _⟩))

/-- The value of a root is that of its content, which is tied if it holds its own name. -/
theorem weave_root (contents : Contents) (fuel root size : Nat) :
    let x := ((collection (weave contents fuel [root]) ((contents[root]?.getD none).getD (.value .null))).run
      (.replicate size none)).1
    ((weave contents (fuel + 1) [] root).run (.replicate size none)).1.value =
      if x.loose then .knot root x.value else x.value := by
  have hnone : (Array.replicate size (none : Option Value))[root]?.getD none = none := by
    rw [Array.getElem?_replicate]
    split <;> rfl
  intro x
  rw [weave]
  rw [StateT.run_bind, StateT.run_get, pure_bind]
  dsimp only
  rw [hnone]
  dsimp only
  rw [if_neg (by simp), StateT.run_bind]
  show (Prod.fst (StateT.run (m := Id) (α := Weave) (if x.loose = true then _ else _) _)).value = _
  split <;> rfl

/-- The keys of a mapping are different, also where it holds its own name. -/
theorem distinctKeys_entries_of_cases {x : Weave} {root : Nat}
    (h : (∃ v, x = ⟨v, false⟩ ∧ v.entries = []) ∨ (∃ items, x.value = .list items) ∨
      (∃ members, x.value = .set members) ∨ ∃ es, x.value = .map es ∧ Value.DistinctKeys es) :
    Value.DistinctKeys (if x.loose then Value.knot root x.value else x.value).entries := by
  rcases h with ⟨v, rfl, hv⟩ | ⟨items, hx⟩ | ⟨members, hx⟩ | ⟨es, hx, hes⟩
  · show Value.DistinctKeys v.entries
    rw [hv]
    exact List.Pairwise.nil
  · rw [hx]
    split <;> exact List.Pairwise.nil
  · rw [hx]
    split <;> exact List.Pairwise.nil
  · rw [hx]
    split
    · show Value.DistinctKeys (Value.tieEntries root _ es)
      unfold Value.DistinctKeys
      rw [Value.keys_tieEntries]
      exact hes
    · exact hes

/-- **A mapping that was read has no key twice.** -/
theorem distinctKeys_of_read {t : Text} {v : Value} (h : read t = .ok v) : Value.DistinctKeys v.entries := by
  unfold read at h
  split at h
  · obtain ⟨found, -, hfound⟩ := bind_eq_ok_iff.1 h
    cases found with
    | none =>
        cases hfound
        exact List.Pairwise.nil
    | some d =>
        obtain ⟨root, nodes⟩ := d
        obtain ⟨contents, hcontents, hvalue⟩ := bind_eq_ok_iff.1 hfound
        have hplain := contentsOf_plain hcontents
        have hroot : ∀ u, (contents[root]?.getD none).getD (.value .null) = .value u → u.entries = [] := by
          intro u hu
          cases hfound : contents[root]? with
          | none =>
              rw [hfound] at hu
              cases hu
              rfl
          | some c =>
              rw [hfound] at hu
              cases c with
              | none =>
                  cases hu
                  rfl
              | some c => exact hplain root u (hfound.trans (congrArg (some ∘ some) hu))
        have hv : ((weave contents (nodes.size + 1) [] root).run (.replicate nodes.size none)).1.value = v :=
          Except.ok.inj hvalue
        rw [← hv, weave_root]
        refine distinctKeys_entries_of_cases ?_
        rcases collection_cases (weave contents nodes.size [root]) _ (.replicate nodes.size none) with
          ⟨u, hc, hx⟩ | hx
        · exact Or.inl ⟨u, hx, hroot u hc⟩
        · exact Or.inr hx
  · cases h

end Yaml
end StepForge
