import Mathlib.Data.Finset.Card
import StepForge.Proofs.Conversion.Written

/-!
# `StepForge.Proofs.Conversion.Entries` — the entries of a definition and their files

Each entry of a definition is planned as a step, but not always in a file of its own. Keys become texts,
equal ones are merged, and of the texts only the words are seen in a name. The words are all that counts in
the end: equal texts have equal words.

## Contents
- `entryName`, `entryWords` — the file of an entry, and what it depends on.
- `mem_names_plan`, `length_places_plan` — the names and the places of the planned files.
- `Written.file_iff` — where a whole run leaves new files.
- `entries_keep_files_iff` — when each entry has a file of its own.
-/

namespace StepForge.Conversion

/-- The file of an entry. -/
def entryName (e : Category × Text) : Text := Generate.stepFileName e.1 e.2

/-- What the file of an entry depends on: its category, and the words of its key, letter case aside. -/
def entryWords (e : Category × Text) : Category × List Text := (e.1, Naming.smallWords e.2)

theorem entryName_eq_iff {e d : Category × Text} : entryName e = entryName d ↔ entryWords e = entryWords d := by
  unfold entryName entryWords
  rw [stepFileName_eq_iff, Prod.mk.injEq]

/-- The names of the files that are no steps. -/
def fixedNames : List Text := ["index.js", "package.json"]

/-- The names of the planned files are those of the entries, and those of the index and the manifest. -/
theorem mem_names_plan {v : Value} {name : Text} :
    name ∈ (plan (App.ofValue v)).map Task.fileName ↔ name ∈ (entryKeys v).map entryName ++ fixedNames := by
  rw [List.mem_append]
  constructor
  · intro h
    obtain ⟨task, htask, rfl⟩ := List.mem_map.1 h
    rcases mem_plan.1 htask with ⟨c, key, s, hmem, rfl⟩ | rfl | rfl
    · exact Or.inl (List.mem_map.2 ⟨(c, key), mem_entryKeys_iff.2 ⟨s, hmem⟩, rfl⟩)
    · exact Or.inr (by simp [fixedNames])
    · exact Or.inr (by simp [fixedNames])
  · rintro (h | h)
    · obtain ⟨⟨c, key⟩, hmem, rfl⟩ := List.mem_map.1 h
      obtain ⟨s, hs⟩ := mem_entryKeys_iff.1 hmem
      exact List.mem_map.2 ⟨_, mem_plan.2 (Or.inl ⟨c, key, s, hs, rfl⟩), rfl⟩
    · rcases List.mem_cons.1 h with rfl | h
      · exact List.mem_map.2 ⟨_, mem_plan.2 (Or.inr (Or.inl rfl)), rfl⟩
      · rw [List.mem_singleton.1 h]
        exact List.mem_map.2 ⟨_, mem_plan.2 (Or.inr (Or.inr rfl)), rfl⟩

/-! ## Counting -/

section Counting

variable {α β γ : Type} [DecidableEq β] [DecidableEq γ]

/-- Two namings that tell the same things apart have the same number of names. -/
theorem length_dedup_map {f : α → β} {g : α → γ} {l : List α}
    (h : ∀ a ∈ l, ∀ b ∈ l, f a = f b ↔ g a = g b) : (l.map f).dedup.length = (l.map g).dedup.length := by
  induction l with
  | nil => rfl
  | cons a l ih =>
      have hmem : f a ∈ l.map f ↔ g a ∈ l.map g := by
        rw [List.mem_map, List.mem_map]
        constructor
        · rintro ⟨b, hb, heq⟩
          exact ⟨b, hb, (h b (by simp [hb]) a (by simp)).1 heq⟩
        · rintro ⟨b, hb, heq⟩
          exact ⟨b, hb, (h b (by simp [hb]) a (by simp)).2 heq⟩
      have htail := ih fun b hb c hc => h b (List.mem_cons_of_mem a hb) c (List.mem_cons_of_mem a hc)
      rw [List.map_cons, List.map_cons]
      by_cases hf : f a ∈ l.map f
      · rw [List.dedup_cons_of_mem hf, List.dedup_cons_of_mem (hmem.1 hf), htail]
      · rw [List.dedup_cons_of_notMem hf, List.dedup_cons_of_notMem fun hg => hf (hmem.2 hg),
          List.length_cons, List.length_cons, htail]

/-- Nothing stands twice exactly when counting it once leaves the number as it is. -/
theorem length_dedup_eq_iff {l : List β} : l.dedup.length = l.length ↔ l.Nodup :=
  @Multiset.dedup_card_eq_card_iff_nodup β _ (l : Multiset β)

end Counting

/-- No entry has the name of the index or of the manifest. -/
theorem entryName_notMem (e : Category × Text) : entryName e ∉ fixedNames := by
  have hslash : '/'.toNat ∈ entryName e := by
    unfold entryName Generate.stepFileName Generate.stepModulePath
    simp
  have hfixed : ∀ name ∈ fixedNames, '/'.toNat ∉ name := by decide
  exact fun h => hfixed _ h hslash

/-- **The places where files are planned** are as many as the entries tell apart, and two more. -/
theorem length_places_plan (v : Value) (out : Path) :
    (places (App.ofValue v) out).dedup.length = ((entryKeys v).map entryWords).dedup.length + 2 := by
  have hnames : (places (App.ofValue v) out).dedup.length =
      ((plan (App.ofValue v)).map Task.fileName).dedup.length :=
    length_dedup_map fun a ha b hb => place_eq_iff ha hb
  have hwords : ((entryKeys v).map entryWords).dedup.length = ((entryKeys v).map entryName).dedup.length :=
    length_dedup_map fun _ _ _ _ => entryName_eq_iff.symm
  have hperm : ((plan (App.ofValue v)).map Task.fileName).dedup.Perm
      ((entryKeys v).map entryName ++ fixedNames).dedup := by
    rw [List.perm_ext_iff_of_nodup (List.nodup_dedup _) (List.nodup_dedup _)]
    intro name
    rw [List.mem_dedup, List.mem_dedup, mem_names_plan]
  have hdisjoint : List.Disjoint ((entryKeys v).map entryName) fixedNames := by
    intro name hname hfixed
    obtain ⟨e, _, rfl⟩ := List.mem_map.1 hname
    exact entryName_notMem e hfixed
  have htwo : fixedNames.dedup.length = 2 := by decide
  rw [hnames, hwords, hperm.length_eq, List.Disjoint.dedup_append hdisjoint, List.length_append, htwo]

/-- Each entry of a definition, under its own key or its position, is planned as a step, with what the last
entry of this key describes. -/
theorem mem_plan_of_mem_entryKeys {v : Value} {c : Category} {key : Text} (h : (c, key) ∈ entryKeys v) :
    ∃ entry, (keyedEntries (v.member c.collection)).reverse.lookup key = some entry ∧
      ⟨entryName (c, key), .step c key (Step.ofValue key entry)⟩ ∈ plan (App.ofValue v) := by
  obtain ⟨s, hs⟩ := mem_entryKeys_iff.1 h
  have hsome : (((App.ofValue v).steps c).lookup key).isSome = true :=
    List.lookup_isSome_iff.2 ⟨(key, s), mem_stepList.1 hs, by simp⟩
  obtain ⟨last, hlast⟩ := Option.isSome_iff_exists.1 hsome
  have hentry := hlast
  rw [lookup_steps_ofValue, Option.map_eq_some_iff] at hentry
  obtain ⟨entry, hentry, rfl⟩ := hentry
  refine ⟨entry, hentry, mem_plan.2 (Or.inl ⟨c, key, _, mem_stepList.2 ?_, rfl⟩)⟩
  obtain ⟨before, behind, heq, _⟩ := List.lookup_eq_some_iff.1 hlast
  rw [heq]
  simp

/-- Behind all tasks the places of planned files hold files, and no other place holds a file that it did not
hold before. -/
theorem Written.file_iff {app : App} {settings : Settings} {out : Path} {w : Workshop} {t : Tree}
    (h : Written app settings out w (plan app) t) (l : Location) :
    (l ∈ places app out → ∃ bytes, t.at? l = some (.file bytes)) ∧
      (l ∉ places app out → ∀ bytes, t.at? l = some (.file bytes) →
        w.tree.at? l = some (.file bytes)) := by
  constructor
  · intro hl
    obtain ⟨task, htask, rfl⟩ := List.mem_map.1 hl
    exact h.file_of_mem htask
  · intro hl bytes hfile
    rw [← h.rest l, hfile]
    intro task htask
    refine ⟨fun heq => hl (List.mem_map.2 ⟨task, htask, heq.symm⟩), ?_⟩
    intro hanc
    rw [h.dirs task htask l hanc] at hfile
    cases hfile

/-- **When each entry has a file of its own.** Each entry of a definition, under its own key or its
position, is planned, with what the last entry of this key describes. Two entries are planned under one name
exactly when they have the same category and their keys the same words, letter case aside. So the names are
all different exactly when no two entries agree in both, and exactly then the planned files are as many as
the entries, besides the index and the manifest; else they are fewer, and one step is written over another.
A conversion that can be done reports no fault and leaves exactly these files. -/
theorem entries_keep_files_iff (v : Value) (out : Path) :
    let planned := plan (App.ofValue v)
    let files := (places (App.ofValue v) out).dedup
    (∀ c key, (c, key) ∈ entryKeys v → ∃ entry,
        (keyedEntries (v.member c.collection)).reverse.lookup key = some entry ∧
          ⟨entryName (c, key), .step c key (Step.ofValue key entry)⟩ ∈ planned) ∧
      (∀ e d, entryName e = entryName d ↔ entryWords e = entryWords d) ∧
      (((entryKeys v).map entryName).Nodup ↔ ((entryKeys v).map entryWords).Nodup) ∧
      files.length = ((entryKeys v).map entryWords).dedup.length + 2 ∧
      (files.length = (entryKeys v).length + 2 ↔ ((entryKeys v).map entryWords).Nodup) ∧
      ∀ (settings : Settings) (given : Value) (w : Workshop),
        workersFault (workers settings given) = none → Ready (App.ofValue v) settings out w →
        let done := convert (App.ofValue v) settings out given w
        done.1 = .ok (planned.map (Task.path out)) ∧
          ∀ l, (l ∈ files → ∃ bytes, done.2.tree.at? l = some (.file bytes)) ∧
            (l ∉ files → ∀ bytes, done.2.tree.at? l = some (.file bytes) →
              w.tree.at? l = some (.file bytes)) := by
  intro planned files
  have hlength : ((entryKeys v).map entryName).length = ((entryKeys v).map entryWords).length := by
    rw [List.length_map, List.length_map]
  refine ⟨fun c key => mem_plan_of_mem_entryKeys, fun e d => entryName_eq_iff, ?_, length_places_plan v out,
    ?_, ?_⟩
  · rw [← length_dedup_eq_iff, ← length_dedup_eq_iff, hlength, length_dedup_map fun _ _ _ _ => entryName_eq_iff]
  · rw [← length_dedup_eq_iff, length_places_plan, List.length_map, Nat.add_right_cancel_iff]
  · intro settings given w hworkers hready done
    obtain ⟨hpaths, hwritten, _⟩ := convert_written hworkers hready
    refine ⟨hpaths, ?_⟩
    intro l
    rw [List.mem_dedup]
    exact hwritten.file_iff l

/-- Two entries whose keys have the same words. -/
def twinEntries : Value :=
  .map [(.str "general", .map [(.str "title", .str "Twins")]),
    (.str "triggers", .map [(.str "a", .map []), (.str "a!", .map [])])]

theorem ofValue_twinEntries : App.ofValue twinEntries = twins := rfl

/-- Of two entries with one file only one is left: with the index and the manifest three files. -/
theorem twinEntries_lose :
    workersFault (workers {} (.int 1)) = none ∧
      Ready (App.ofValue twinEntries) {} (.ofText "out") usedWorkshop ∧
      (convert (App.ofValue twinEntries) {} (.ofText "out") (.int 1) usedWorkshop).1 =
        .ok ((plan (App.ofValue twinEntries)).map (Task.path (.ofText "out"))) ∧
      (entryKeys twinEntries).length = 2 ∧
      (places (App.ofValue twinEntries) (.ofText "out")).dedup.length = 3 := by
  have hready : Ready (App.ofValue twinEntries) {} (.ofText "out") usedWorkshop :=
    ofValue_twinEntries ▸ twins_ready
  have hworkers : workersFault (workers {} (.int 1)) = none := by decide
  obtain ⟨_, _, _, hlength, _, hconvert⟩ := entries_keep_files_iff twinEntries (.ofText "out")
  have hone : ((entryKeys twinEntries).map entryWords).dedup.length = 1 := by decide +kernel
  refine ⟨hworkers, hready, (hconvert {} (.int 1) usedWorkshop hworkers hready).1, rfl, ?_⟩
  rw [hlength, hone]

end StepForge.Conversion
