import Mathlib.Data.List.Forall2
import Mathlib.Logic.Relation
import StepForge.Conversion.Plan
import StepForge.Definition.Source

/-!
# `StepForge.Proofs.Definition.Rewrites` — definitions that describe one app

A definition can be written in many ways: a collection as a mapping or as a list of entries that carry their
keys, nothing as an empty mapping or as anything that is none, and with members that nobody reads. A rewrite
changes one such place. What is read out of a definition sees only the members that it knows, so bodies
that agree under the known names are read alike, and rewritten definitions agree at each level.

## Contents
- `Value.sameKey_str`, `Value.get?_insert_self`, `Value.get?_insert_ne` — members under text keys.
- `BodyChange`, `CollectionChange` — one change of a body, and of a collection of bodies.
- `StepPart`, `TopPart`, `Rewrite` — the levels of a definition, and one rewrite of it.
- `Agree` — bodies that tell the same under known names; `entries_congr` — collections that do.
- `appOf_congr` — rewritten definitions describe one app.
-/

namespace StepForge

namespace Value

/-! ## Members under text keys -/

theorem sameKey_str {k : Value} {name : Text} : sameKey k (str name) = true ↔ k = str name := by
  cases k <;> simp [sameKey, number?]

theorem get?_cons_self (name : Text) (x : Value) (es : List (Value × Value)) :
    get? (str name) ((str name, x) :: es) = some x := by
  rw [get?, if_pos (sameKey_str.2 rfl)]

theorem get?_cons_ne {k : Value} {name : Text} (h : k ≠ str name) (x : Value) (es : List (Value × Value)) :
    get? (str name) ((k, x) :: es) = get? (str name) es := by
  rw [get?, if_neg fun hsame => h (sameKey_str.1 hsame)]

theorem get?_append (key : Value) (a b : List (Value × Value)) :
    get? key (a ++ b) = (get? key a).or (get? key b) := by
  induction a with
  | nil => rfl
  | cons e a ih =>
      rw [List.cons_append, get?, get?, ih]
      split <;> rfl

theorem get?_insert_self (name : Text) (x : Value) (es : List (Value × Value)) :
    get? (str name) (insert (str name) x es) = some x := by
  induction es with
  | nil => rw [insert, get?_cons_self]
  | cons e es ih =>
      obtain ⟨k, y⟩ := e
      rw [insert]
      by_cases hk : k = str name
      · rw [if_pos (sameKey_str.2 hk), hk, get?_cons_self]
      · rw [if_neg fun hsame => hk (sameKey_str.1 hsame), get?_cons_ne hk, ih]

theorem get?_insert_ne {name other : Text} (hne : other ≠ name) (x : Value) (es : List (Value × Value)) :
    get? (str name) (insert (str other) x es) = get? (str name) es := by
  have hkeys : str other ≠ str name := fun h => hne (Value.str.inj h)
  induction es with
  | nil => rw [insert, get?_cons_ne hkeys]
  | cons e es ih =>
      obtain ⟨k, y⟩ := e
      rw [insert]
      by_cases hk : k = str other
      · subst hk
        rw [if_pos (sameKey_str.2 rfl), get?_cons_ne hkeys, get?_cons_ne hkeys]
      · rw [if_neg fun hsame => hk (sameKey_str.1 hsame), get?, get?, ih]

theorem entries_map (es : List (Value × Value)) : (map es).entries = es := rfl

theorem entries_eq {v : Value} {es : List (Value × Value)} (h : v.unfolded = map es) : v.entries = es := by
  rw [entries, h]

theorem entries_eq_nil {v : Value} (h : ∀ es, v.unfolded ≠ map es) : v.entries = [] := by
  unfold entries
  split
  · next es hes => exact absurd hes (h es)
  · rfl

theorem member_asMap (v : Value) (name : Text) : v.asMap.member name = v.member name := rfl

end Value

namespace Definition

/-! ## Changes -/

/-- How the value of a member may change, by the name of the member. -/
abbrev PartChange := Text → Value → Value → Prop

/-- No member changes. -/
def noPart : PartChange := fun _ _ _ => False

/-- One change of a body whose members have known names. -/
inductive BodyChange (known : List Text) (part : PartChange) : Value → Value → Prop where
  /-- What is no mapping gives way to an empty one. -/
  | void {v : Value} (h : ∀ es, v.unfolded ≠ .map es) : BodyChange known part v (.map [])
  /-- A member that nobody knows is added. -/
  | unknown {v key x : Value} {a b : List (Value × Value)} (h : v.unfolded = .map (a ++ b))
      (hkey : ∀ name ∈ known, key ≠ .str name) : BodyChange known part v (.map (a ++ (key, x) :: b))
  /-- The value of a member changes. -/
  | member {v x y : Value} {name : Text} {a b : List (Value × Value)}
      (h : v.unfolded = .map (a ++ (.str name, x) :: b)) (hpart : part name x y) :
      BodyChange known part v (.map (a ++ (.str name, y) :: b))

/-- The entries of a mapping as a list: each one is a mapping that has its key as a member. -/
def keyedList (es : List (Value × Value)) : List Value :=
  es.map fun e => .map (Value.insert (.str "key") e.1 e.2.entries)

/-- One change of a collection. In a list the key is a member that is known too. -/
inductive CollectionChange (known : List Text) (part : PartChange) : Value → Value → Prop where
  /-- A mapping gives way to the list of its entries, in the same order. -/
  | keyed {v : Value} {es : List (Value × Value)} (h : v.unfolded = .map es) :
      CollectionChange known part v (.list (keyedList es))
  /-- What is no collection gives way to an empty one. -/
  | void {v : Value} (hmap : ∀ es, v.unfolded ≠ .map es) (hlist : ∀ vs, v.unfolded ≠ .list vs)
      (htuple : ∀ vs, v.unfolded ≠ .tuple vs) : CollectionChange known part v (.map [])
  /-- An entry of a mapping changes. -/
  | entry {v key x y : Value} {a b : List (Value × Value)} (h : v.unfolded = .map (a ++ (key, x) :: b))
      (hbody : BodyChange known part x y) : CollectionChange known part v (.map (a ++ (key, y) :: b))
  /-- An entry of a list changes. -/
  | item {v x y : Value} {a b : List Value} (h : v.unfolded = .list (a ++ x :: b))
      (hbody : BodyChange ("key" :: known) part x y) : CollectionChange known part v (.list (a ++ y :: b))
  /-- An entry of a tuple changes. -/
  | place {v x y : Value} {a b : List Value} (h : v.unfolded = .tuple (a ++ x :: b))
      (hbody : BodyChange ("key" :: known) part x y) : CollectionChange known part v (.tuple (a ++ y :: b))

/-! ## The levels of a definition -/

def fieldNames : List Text := ["type", "label", "help_text", "required", "placeholder"]

def sampleNames : List Text := ["type", "label"]

def stepNames : List Text := ["fields", "sample_result_fields"]

def generalNames : List Text := ["title", "description"]

def topNames : List Text := ["general", "triggers", "searches", "actions"]

/-- One change inside a member of a step. -/
inductive StepPart : PartChange where
  | fields {v w : Value} (h : CollectionChange fieldNames noPart v w) : StepPart "fields" v w
  | samples {v w : Value} (h : CollectionChange sampleNames noPart v w) : StepPart "sample_result_fields" v w

/-- One change inside a member of a definition. -/
inductive TopPart : PartChange where
  | general {v w : Value} (h : BodyChange generalNames noPart v w) : TopPart "general" v w
  | steps {v w : Value} (c : Category) (h : CollectionChange stepNames StepPart v w) : TopPart c.collection v w

/-- One rewrite of a definition, at any level. -/
def Rewrite : Value → Value → Prop := BodyChange topNames TopPart

/-! ## Agreement -/

/-- Two bodies agree: under each known name they have one value, or values that may change into each other. -/
def Agree (known : List Text) (part : PartChange) (v w : Value) : Prop :=
  ∀ name ∈ known, v.member? name = w.member? name ∨
    ∃ x y, v.member? name = some x ∧ w.member? name = some y ∧ part name x y

variable {known : List Text} {part : PartChange} {v w : Value}

theorem Agree.refl (known : List Text) (part : PartChange) (v : Value) : Agree known part v v :=
  fun _ _ => Or.inl rfl

theorem Agree.mono {names : List Text} (h : Agree known part v w) (hsub : names ⊆ known) :
    Agree names part v w :=
  fun name hname => h name (hsub hname)

/-- The values of a known name agree, whether they are given or null. -/
theorem Agree.member (h : Agree known part v w) (name : Text) (hname : name ∈ known) :
    v.member name = w.member name ∨ part name (v.member name) (w.member name) := by
  rcases h name hname with heq | ⟨x, y, hx, hy, hpart⟩
  · left
    rw [Value.member, Value.member, heq]
  · right
    rw [Value.member, Value.member, hx, hy]
    exact hpart

/-- Where no part changes, the values are one. -/
theorem Agree.member_eq (h : Agree known noPart v w) (name : Text) (hname : name ∈ known) :
    v.member name = w.member name :=
  (h.member name hname).resolve_right id

/-- **A changed body agrees** with what it was. -/
theorem BodyChange.agree (h : BodyChange known part v w) : Agree known part v w := by
  intro name hname
  cases h with
  | void hvoid =>
      left
      rw [Value.member?, Value.member?, Value.entries_eq_nil hvoid]
      rfl
  | @unknown key x a b hv hkey =>
      left
      rw [Value.member?, Value.member?, Value.entries_eq hv, Value.entries_map, Value.get?_append,
        Value.get?_append, Value.get?_cons_ne (hkey name hname)]
  | @member x y other a b hv hpart =>
      rw [Value.member?, Value.member?, Value.entries_eq hv, Value.entries_map, Value.get?_append,
        Value.get?_append]
      by_cases heq : other = name
      · subst heq
        rw [Value.get?_cons_self, Value.get?_cons_self]
        cases Value.get? (.str other) a with
        | some z => exact Or.inl rfl
        | none => exact Or.inr ⟨x, y, rfl, rfl, hpart⟩
      · have hkeys : Value.str other ≠ .str name := fun h => heq (Value.str.inj h)
        left
        rw [Value.get?_cons_ne hkeys, Value.get?_cons_ne hkeys]

/-- A body with a key put into it agrees with what it was under all other names. -/
theorem agree_insert_key (hknown : ("key" : Text) ∉ known) (key v : Value) :
    Agree known part v (.map (Value.insert (.str "key") key v.entries)) := by
  intro name hname
  have hne : ("key" : Text) ≠ name := fun h => hknown (h ▸ hname)
  left
  rw [Value.member?, Value.member?, Value.entries_map, Value.get?_insert_ne hne]

/-! ## Collections -/

/-- Entries with one key whose bodies agree. -/
def EntriesAgree (known : List Text) (part : PartChange) (e d : Value × Value) : Prop :=
  e.1 = d.1 ∧ Agree known part e.2 d.2

theorem entriesAgree_refl (es : List (Value × Value)) : List.Forall₂ (EntriesAgree known part) es es :=
  List.forall₂_same.2 fun _ _ => ⟨rfl, Agree.refl _ _ _⟩

theorem listEntries_keyedList (i : Nat) (es : List (Value × Value)) :
    listEntries i (keyedList es) =
      es.map fun e => (e.1, .map (Value.insert (.str "key") e.1 e.2.entries)) := by
  induction es generalizing i with
  | nil => rfl
  | cons e es ih =>
      rw [keyedList, List.map_cons, listEntries, ← keyedList, ih, List.map_cons, Value.member?,
        Value.entries_map, Value.get?_insert_self]
      rfl

/-- A list in which one entry changes: the entries before it keep their positions and those behind it too. -/
theorem listEntries_agree (hpart : ∀ x y, ¬ part "key" x y) {x y : Value}
    (hxy : Agree ("key" :: known) part x y) (i : Nat) (a b : List Value) :
    List.Forall₂ (EntriesAgree known part) (listEntries i (a ++ x :: b)) (listEntries i (a ++ y :: b)) := by
  induction a generalizing i with
  | nil =>
      have hkey : x.member? "key" = y.member? "key" := by
        rcases hxy "key" List.mem_cons_self with h | ⟨x', y', _, _, h⟩
        · exact h
        · exact absurd h (hpart x' y')
      refine List.Forall₂.cons ⟨?_, hxy.mono (List.subset_cons_self _ _)⟩ (entriesAgree_refl _)
      rw [hkey]
  | cons z a ih => exact List.Forall₂.cons ⟨rfl, Agree.refl _ _ _⟩ (ih (i + 1))

/-- **A changed collection has the keys that it had, and bodies that agree.** -/
theorem CollectionChange.entriesAgree (h : CollectionChange known part v w) (hknown : ("key" : Text) ∉ known)
    (hpart : ∀ x y, ¬ part "key" x y) :
    List.Forall₂ (EntriesAgree known part) (entriesOf v) (entriesOf w) := by
  cases h with
  | @keyed es hv =>
      have hkeyed : entriesOf (.list (keyedList es)) = listEntries 0 (keyedList es) := rfl
      rw [entriesOf, hv, hkeyed, listEntries_keyedList, List.forall₂_map_right_iff]
      exact List.forall₂_same.2 fun e _ => ⟨rfl, agree_insert_key hknown e.1 e.2⟩
  | void hmap hlist htuple =>
      have hnone : entriesOf v = [] := by
        unfold entriesOf
        split
        · next es hes => exact absurd hes (hmap es)
        · next vs hvs => exact absurd hvs (hlist vs)
        · next vs hvs => exact absurd hvs (htuple vs)
        · rfl
      rw [hnone]
      exact List.Forall₂.nil
  | entry hv hbody =>
      rw [entriesOf, hv]
      exact List.rel_append (entriesAgree_refl _) (List.Forall₂.cons ⟨rfl, hbody.agree⟩ (entriesAgree_refl _))
  | item hv hbody =>
      rw [entriesOf, hv]
      exact listEntries_agree hpart hbody.agree 0 _ _
  | place hv hbody =>
      rw [entriesOf, hv]
      exact listEntries_agree hpart hbody.agree 0 _ _

/-- What is read out of the entries of a collection is the same after a change, if bodies that agree are
read alike. -/
theorem entries_congr {α : Type} (read : Value → Value → α) (hknown : ("key" : Text) ∉ known)
    (hpart : ∀ x y, ¬ part "key" x y) (hread : ∀ key x y, Agree known part x y → read key x = read key y)
    (h : v = w ∨ CollectionChange known part v w) :
    (entriesOf v).map (fun e => read e.1 e.2) = (entriesOf w).map (fun e => read e.1 e.2) := by
  rcases h with rfl | h
  · rfl
  · have hentries := h.entriesAgree hknown hpart
    generalize entriesOf v = es at hentries ⊢
    generalize entriesOf w = ds at hentries ⊢
    induction hentries with
    | nil => rfl
    | @cons e d es ds hed _ ih => rw [List.map_cons, List.map_cons, ih, hed.1, hread d.1 e.2 d.2 hed.2]

theorem keyedEntries_congr {α : Type} (read : Text → Value → α) (hknown : ("key" : Text) ∉ known)
    (hpart : ∀ x y, ¬ part "key" x y)
    (hread : ∀ key x y, Agree known part x y → read key x.asMap = read key y.asMap)
    (h : v = w ∨ CollectionChange known part v w) :
    (keyedEntries v).map (fun e => read e.1 e.2) = (keyedEntries w).map (fun e => read e.1 e.2) := by
  rw [keyedEntries, keyedEntries, List.map_map, List.map_map]
  exact entries_congr (fun key x => read key.display x.asMap) hknown hpart (fun key => hread key.display) h

/-- The keys of a collection are the same after a change. -/
theorem keys_congr (hknown : ("key" : Text) ∉ known) (hpart : ∀ x y, ¬ part "key" x y)
    (h : v = w ∨ CollectionChange known part v w) : (entriesOf v).map (·.1) = (entriesOf w).map (·.1) :=
  entries_congr (fun key _ => key) hknown hpart (fun _ _ _ _ => rfl) h

/-! ## The levels of a definition, read -/

theorem Field.ofValue_congr (h : Agree fieldNames noPart v w) (key : Text) :
    Field.ofValue key v.asMap = Field.ofValue key w.asMap := by
  simp only [Field.ofValue, Value.member_asMap]
  rw [h.member_eq "type" (by decide), h.member_eq "label" (by decide),
    h.member_eq "help_text" (by decide), h.member_eq "required" (by decide),
    h.member_eq "placeholder" (by decide)]

theorem Sample.ofValue_congr (h : Agree sampleNames noPart v w) (key : Text) :
    Sample.ofValue key v.asMap = Sample.ofValue key w.asMap := by
  simp only [Sample.ofValue, Value.member_asMap]
  rw [h.member_eq "type" (by decide), h.member_eq "label" (by decide)]

theorem stepPart_fields (h : StepPart "fields" v w) : CollectionChange fieldNames noPart v w := by
  generalize hname : ("fields" : Text) = name at h
  cases h with
  | fields hchange => exact hchange
  | samples _ => exact absurd hname (by decide)

theorem stepPart_samples (h : StepPart "sample_result_fields" v w) :
    CollectionChange sampleNames noPart v w := by
  generalize hname : ("sample_result_fields" : Text) = name at h
  cases h with
  | fields _ => exact absurd hname (by decide)
  | samples hchange => exact hchange

theorem not_stepPart_key (x y : Value) : ¬ StepPart "key" x y := by
  intro h
  generalize hname : ("key" : Text) = name at h
  cases h <;> exact absurd hname (by decide)

theorem topPart_general (h : TopPart "general" v w) : BodyChange generalNames noPart v w := by
  generalize hname : ("general" : Text) = name at h
  cases h with
  | general hchange => exact hchange
  | steps c _ => cases c <;> exact absurd hname (by decide)

theorem topPart_collection {c : Category} (h : TopPart c.collection v w) :
    CollectionChange stepNames StepPart v w := by
  generalize hname : c.collection = name at h
  cases h with
  | general _ => cases c <;> exact absurd hname (by decide)
  | steps _ hchange => exact hchange

section Steps

variable (h : Agree stepNames StepPart v w)

include h

/-- The fields of steps that agree are one value, or the one is a change of the other. -/
theorem Agree.fields : v.member "fields" = w.member "fields" ∨
    CollectionChange fieldNames noPart (v.member "fields") (w.member "fields") :=
  (h.member _ (by decide)).imp_right stepPart_fields

/-- The sample fields of steps that agree are one value, or the one is a change of the other. -/
theorem Agree.samples : v.member "sample_result_fields" = w.member "sample_result_fields" ∨
    CollectionChange sampleNames noPart (v.member "sample_result_fields") (w.member "sample_result_fields") :=
  (h.member _ (by decide)).imp_right stepPart_samples

/-- The sample fields are read alike, also where nothing else of a step is read. -/
theorem samplesOf_congr : samplesOf v = samplesOf w :=
  keyedEntries_congr _ (by decide) (fun _ _ => id) (fun key _ _ hxy => Sample.ofValue_congr hxy key) h.samples

theorem Step.ofValue_congr (key : Text) : Step.ofValue key v.asMap = Step.ofValue key w.asMap := by
  have hfields := keyedEntries_congr Field.ofValue (by decide) (fun _ _ => id)
    (fun key x y hxy => Field.ofValue_congr hxy key) h.fields
  have hsamples : samplesOf v.asMap = samplesOf w.asMap := samplesOf_congr h
  simp only [Step.ofValue, Value.member_asMap]
  rw [hfields, hsamples]

/-- The keys that become texts while a step is read. -/
theorem stepKeys_congr (key : Value) :
    key :: ((entriesOf (v.member "fields")).map (·.1) ++ (entriesOf (v.member "sample_result_fields")).map (·.1)) =
      key :: ((entriesOf (w.member "fields")).map (·.1) ++
        (entriesOf (w.member "sample_result_fields")).map (·.1)) := by
  rw [keys_congr (by decide) (fun _ _ => id) h.fields, keys_congr (by decide) (fun _ _ => id) h.samples]

end Steps

section Top

variable (h : Agree topNames TopPart v w)

include h

/-- The steps of a category of definitions that agree are one value, or the one is a change of the other. -/
theorem Agree.collection (c : Category) : v.member c.collection = w.member c.collection ∨
    CollectionChange stepNames StepPart (v.member c.collection) (w.member c.collection) := by
  have hknown : c.collection ∈ topNames := by cases c <;> decide
  exact (h.member _ hknown).imp_right topPart_collection

theorem Agree.generalMember (name : Text) (hname : name ∈ generalNames) :
    (v.member "general").member name = (w.member "general").member name := by
  rcases h.member "general" (by decide) with heq | hpart
  · rw [heq]
  · exact (topPart_general hpart).agree.member_eq name hname

theorem collectionOf_congr (c : Category) : App.collectionOf c v = App.collectionOf c w := by
  have hsteps := keyedEntries_congr (fun key x => (key, Step.ofValue key x)) (by decide)
    not_stepPart_key (fun key x y hxy => by rw [Step.ofValue_congr hxy key]) (h.collection c)
  rw [App.collectionOf, App.collectionOf, hsteps]

theorem ofValue_congr : App.ofValue v = App.ofValue w := by
  simp only [App.ofValue]
  rw [h.generalMember "title" (by decide), h.generalMember "description" (by decide),
    collectionOf_congr h, collectionOf_congr h, collectionOf_congr h]

theorem textValues_congr : App.textValues v = App.textValues w := by
  have hkeys : ∀ c ∈ Category.all, _ := fun c _ => congrArg List.flatten
    (entries_congr _ (by decide) not_stepPart_key (fun key x y hxy => stepKeys_congr hxy key) (h.collection c))
  simp only [App.textValues, List.flatMap_def (l := entriesOf _)]
  rw [h.generalMember "title" (by decide), h.generalMember "description" (by decide),
    List.flatMap_congr hkeys]

end Top

/-! ## Rewritten definitions -/

/-- **A rewrite keeps the app**, and the values that become texts while it is read. -/
theorem Rewrite.keeps (h : Rewrite v w) :
    App.ofValue v = App.ofValue w ∧ App.textValues v = App.textValues w :=
  ⟨ofValue_congr (BodyChange.agree h), textValues_congr (BodyChange.agree h)⟩

theorem eqvGen_keeps (h : Relation.EqvGen Rewrite v w) :
    App.ofValue v = App.ofValue w ∧ App.textValues v = App.textValues w := by
  induction h with
  | rel v w h => exact h.keeps
  | refl v => exact ⟨rfl, rfl⟩
  | symm v w _ ih => exact ⟨ih.1.symm, ih.2.symm⟩
  | trans u v w _ _ ih ih' => exact ⟨ih.1.trans ih'.1, ih.2.trans ih'.2⟩

/-- **Rewritten definitions describe one app**, whatever rewrites of either direction lead from the one to the
other: the same app is read out of both, or both are refused for a number that is too long for a text, and so
the same files are planned with the same texts. -/
theorem appOf_congr (h : Relation.EqvGen Rewrite v w) :
    App.ofValue v = App.ofValue w ∧ appOf v = appOf w ∧
      Conversion.plan (App.ofValue v) = Conversion.plan (App.ofValue w) ∧
      ∀ (settings : Settings) (t : Tree) (l : Template.Library),
        Conversion.renderAll (App.ofValue v) settings t l (Conversion.plan (App.ofValue v)) =
          Conversion.renderAll (App.ofValue w) settings t l (Conversion.plan (App.ofValue w)) := by
  obtain ⟨happ, htexts⟩ := eqvGen_keeps h
  have hof : appOf v = appOf w := by rw [appOf, appOf, happ, htexts]
  rw [happ]
  exact ⟨rfl, hof, rfl, fun _ _ _ => rfl⟩

/-- A step and its field under their keys, and a member that nobody reads. -/
def keyedDefinition : Value :=
  .map [(.str "triggers", .map [(.str "new_order", .map [
    (.str "note", .str "old"),
    (.str "fields", .map [(.str "id", .map [(.str "type", .str "int")])])])])]

/-- The same step with its field in a list, and without that member. -/
def fieldsListed : Value :=
  .map [(.str "triggers", .map [(.str "new_order", .map [
    (.str "fields", .list [.map [(.str "type", .str "int"), (.str "key", .str "id")]])])])]

/-- The same with the step in a list as well. -/
def stepsListed : Value :=
  .map [(.str "triggers", .list [.map [
    (.str "fields", .list [.map [(.str "type", .str "int"), (.str "key", .str "id")]]),
    (.str "key", .str "new_order")]])]

/-- Lists for mappings at two levels, with a member taken away between them. -/
theorem appOf_congr_listed :
    Relation.EqvGen Rewrite keyedDefinition stepsListed ∧ appOf keyedDefinition = appOf stepsListed := by
  have hnote : ∀ name ∈ stepNames, Value.str "note" ≠ Value.str name := by
    intro name hname heq
    rw [← Value.str.inj heq] at hname
    exact absurd hname (by decide)
  have hfields : Rewrite keyedDefinition _ :=
    BodyChange.member (a := []) rfl (TopPart.steps .trigger (CollectionChange.entry (a := []) rfl
      (BodyChange.member (a := [_]) rfl (StepPart.fields (CollectionChange.keyed rfl)))))
  have hunknown : Rewrite fieldsListed _ :=
    BodyChange.member (a := []) rfl (TopPart.steps .trigger (CollectionChange.entry (a := []) rfl
      (@BodyChange.unknown _ _ _ (.str "note") (.str "old") [] _ rfl hnote)))
  have hsteps : Rewrite fieldsListed _ :=
    BodyChange.member (a := []) rfl (TopPart.steps .trigger (CollectionChange.keyed rfl))
  have h : Relation.EqvGen Rewrite keyedDefinition stepsListed :=
    .trans _ _ _ (.rel _ _ hfields) (.trans _ _ _ (.symm _ _ (.rel _ _ hunknown)) (.rel _ _ hsteps))
  exact ⟨h, (appOf_congr h).2.1⟩

end Definition
end StepForge
