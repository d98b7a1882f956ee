import Mathlib.Data.List.Basic
import Mathlib.Data.List.Induction
import StepForge.Definition.App

/-!
# `StepForge.Proofs.Definition.Keys` — entries under distinct keys

Whatever is put under a key takes the place of what was there. So the keys of what is read stay distinct,
every key that is written is there, and of several entries with one key the last is kept.

## Contents
- `lookup_putKey`, `keys_putKey` — one more entry.
- `mem_keys_byKey`, `lookup_byKey` — all entries.
- `entryKeys`, `mem_entryKeys_iff`, `lookup_steps_ofValue` — the entries that become steps.
-/

namespace StepForge

variable {α : Type}

/-! ## One more entry -/

theorem lookup_cons_ite (name key : Text) (value : α) (entries : List (Text × α)) :
    ((key, value) :: entries).lookup name = if name = key then some value else entries.lookup name := by
  by_cases h : name = key
  · rw [h, List.lookup_cons_self, if_pos rfl]
  · have hbeq : (name == key) = false := by simpa using h
    rw [List.lookup_cons, hbeq, if_neg h]

/-- What is put under a key is found there, and nothing else is touched. -/
theorem lookup_putKey (key : Text) (value : α) (entries : List (Text × α)) (name : Text) :
    (putKey key value entries).lookup name = if name = key then some value else entries.lookup name := by
  induction entries with
  | nil => rw [putKey, lookup_cons_ite]
  | cons e entries ih =>
      obtain ⟨k, old⟩ := e
      rw [putKey, lookup_cons_ite name k old]
      by_cases hk : k = key
      · rw [if_pos hk, lookup_cons_ite, hk]
        by_cases h : name = key <;> simp [h]
      · rw [if_neg hk, lookup_cons_ite, ih]
        by_cases h : name = k
        · have hne : name ≠ key := fun heq => hk (h.symm.trans heq)
          rw [if_pos h, if_neg hne, if_pos h]
        · rw [if_neg h, if_neg h]

/-- A key that is there keeps its place, a new one comes last. -/
theorem keys_putKey (key : Text) (value : α) (entries : List (Text × α)) :
    (putKey key value entries).map Prod.fst =
      if key ∈ entries.map Prod.fst then entries.map Prod.fst else entries.map Prod.fst ++ [key] := by
  induction entries with
  | nil => rfl
  | cons e entries ih =>
      obtain ⟨k, old⟩ := e
      rw [putKey]
      by_cases hk : k = key
      · subst hk
        simp
      · have hne : key ≠ k := fun h => hk h.symm
        rw [if_neg hk, List.map_cons, ih]
        by_cases hmem : key ∈ entries.map Prod.fst
        · simp [hmem]
        · rw [if_neg hmem, if_neg]
          · rfl
          · intro h
            rcases List.mem_cons.1 h with h | h
            · exact hne h
            · exact hmem h

theorem mem_keys_putKey {key : Text} {value : α} {entries : List (Text × α)} {name : Text} :
    name ∈ (putKey key value entries).map Prod.fst ↔ name = key ∨ name ∈ entries.map Prod.fst := by
  rw [keys_putKey]
  split
  · next hmem =>
      constructor
      · exact Or.inr
      · rintro (rfl | h)
        · exact hmem
        · exact h
  · rw [List.mem_append, List.mem_singleton, or_comm]

theorem nodup_keys_putKey {key : Text} {value : α} {entries : List (Text × α)}
    (h : (entries.map Prod.fst).Nodup) : ((putKey key value entries).map Prod.fst).Nodup := by
  rw [keys_putKey]
  split
  · exact h
  · next hmem =>
      rw [List.nodup_append]
      refine ⟨h, by simp, ?_⟩
      rintro k hk _ hkey rfl
      rw [List.mem_singleton] at hkey
      exact hmem (hkey ▸ hk)

/-! ## All entries -/

theorem byKey_concat (entries : List (Text × α)) (e : Text × α) :
    byKey (entries ++ [e]) = putKey e.1 e.2 (byKey entries) := by
  unfold byKey
  rw [List.foldl_append]
  rfl

/-- No key is lost, and none is made up. -/
theorem mem_keys_byKey {entries : List (Text × α)} {key : Text} :
    key ∈ (byKey entries).map Prod.fst ↔ key ∈ entries.map Prod.fst := by
  induction entries using List.reverseRecOn with
  | nil => rfl
  | append_singleton entries e ih =>
      rw [byKey_concat, mem_keys_putKey, ih, List.map_append, List.mem_append, List.map_singleton,
        List.mem_singleton, or_comm]

/-- **Of several entries with one key the last is kept.** -/
theorem lookup_byKey (entries : List (Text × α)) (key : Text) :
    (byKey entries).lookup key = entries.reverse.lookup key := by
  induction entries using List.reverseRecOn with
  | nil => rfl
  | append_singleton entries e ih =>
      rw [byKey_concat, lookup_putKey, ih, List.reverse_append, List.reverse_singleton, List.singleton_append,
        lookup_cons_ite]

/-! ## The entries that become steps -/

/-- The categories and the keys of the entries of a definition, in conversion order: the keys as texts, an
entry of a list without a key being under its position. -/
def entryKeys (v : Value) : List (Category × Text) :=
  Category.all.flatMap fun c => (entriesOf (v.member c.collection)).map fun e => (c, e.1.display)

theorem steps_ofValue (v : Value) (c : Category) : (App.ofValue v).steps c = App.collectionOf c v := by
  cases c <;> rfl

theorem mem_stepList {app : App} {c : Category} {key : Text} {s : Step} :
    (c, key, s) ∈ app.stepList ↔ (key, s) ∈ app.steps c := by
  have hall : c ∈ Category.all := by cases c <;> decide
  constructor
  · intro h
    obtain ⟨d, _, hd⟩ := List.mem_flatMap.1 h
    obtain ⟨e, he, heq⟩ := List.mem_map.1 hd
    cases heq
    exact he
  · intro h
    exact List.mem_flatMap.2 ⟨c, hall, List.mem_map.2 ⟨(key, s), h, rfl⟩⟩

theorem mem_entryKeys {v : Value} {c : Category} {key : Text} :
    (c, key) ∈ entryKeys v ↔ ∃ e ∈ entriesOf (v.member c.collection), e.1.display = key := by
  have hall : c ∈ Category.all := by cases c <;> decide
  constructor
  · intro h
    obtain ⟨d, _, hd⟩ := List.mem_flatMap.1 h
    obtain ⟨e, he, heq⟩ := List.mem_map.1 hd
    cases heq
    exact ⟨e, he, rfl⟩
  · rintro ⟨e, he, rfl⟩
    exact List.mem_flatMap.2 ⟨c, hall, List.mem_map.2 ⟨e, he, rfl⟩⟩

/-- **The steps of an app** are those of the keys that its definition has. -/
theorem mem_entryKeys_iff {v : Value} {c : Category} {key : Text} :
    (c, key) ∈ entryKeys v ↔ ∃ s, (c, key, s) ∈ (App.ofValue v).stepList := by
  have hkeys : key ∈ ((App.ofValue v).steps c).map Prod.fst ↔ (c, key) ∈ entryKeys v := by
    rw [steps_ofValue, App.collectionOf, mem_keys_byKey, keyedEntries, List.map_map, List.map_map,
      List.mem_map, mem_entryKeys]
    rfl
  rw [← hkeys, List.mem_map]
  constructor
  · rintro ⟨⟨k, s⟩, hs, rfl⟩
    exact ⟨s, mem_stepList.2 hs⟩
  · rintro ⟨s, hs⟩
    exact ⟨(key, s), mem_stepList.1 hs, rfl⟩

/-- What is made of each entry under its key is looked up as the entry is. -/
theorem lookup_map_entry {β : Type} (f : Text → α → β) (entries : List (Text × α)) (key : Text) :
    (entries.map fun e => (e.1, f e.1 e.2)).lookup key = (entries.lookup key).map (f key) := by
  induction entries with
  | nil => rfl
  | cons e entries ih =>
      obtain ⟨k, value⟩ := e
      rw [List.map_cons, lookup_cons_ite, lookup_cons_ite, ih]
      by_cases h : key = k
      · rw [if_pos h, if_pos h, h]
        rfl
      · rw [if_neg h, if_neg h]

/-- **The step of a key** is the one that the last entry with this key describes. -/
theorem lookup_steps_ofValue (v : Value) (c : Category) (key : Text) :
    ((App.ofValue v).steps c).lookup key =
      ((keyedEntries (v.member c.collection)).reverse.lookup key).map (Step.ofValue key) := by
  rw [steps_ofValue, App.collectionOf, lookup_byKey, ← List.map_reverse, lookup_map_entry]

end StepForge
