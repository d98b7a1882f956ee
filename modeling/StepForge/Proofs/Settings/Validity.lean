import StepForge.Proofs.Number.Exact
import StepForge.Proofs.Settings.Loading
import StepForge.Proofs.Yaml.Keys

/-!
# `StepForge.Proofs.Settings.Validity` — which values give settings, and which settings they give

A file gives settings if its value is null or a mapping whose keys are names of settings, each with a value that the
setting admits. What it gives is laid over the default settings. Any other value is refused: with what is wrong with
it, or, if an integer that is too long would have to be written for that, with a fault that is none of the settings.

## Contents
- `Value.StandsFor`, `Setting.Admits`, `check_eq_none_iff` — the values that a setting admits.
- `Allows`, `faultOf_eq_none_iff` — the values that give settings.
- `Overlays`, `ofValue_eq_ok_iff` — the settings that they give, in whatever order.
- `Unspeakable`, `isUnsaid_iff` — faults that cannot be put into words.
- `load_of_read`, `load_eq_ok_iff`, `file_settings` — all of it, for a file that is read.
-/

namespace StepForge

open Settings

/-! ## Values of settings -/

/-- The integer that a value stands for: itself, or a number with a point and no fraction. A truth value stands for
none. -/
inductive Value.StandsFor : Value → Int → Prop
  | int (n : Int) : StandsFor (.int n) n
  | float {x : Binary64} {n : Int} (hfinite : x.isFinite = true) (hn : x.number = n) : StandsFor (.float x) n

/-- The values that a setting can have in a file. -/
inductive Setting.Admits : Setting → Value → Prop
  | leastHelp {v : Value} {n : Int} (hv : v.StandsFor n) (hn : 1 ≤ n) : Admits .leastHelp v
  | unlimited : Admits .workers .null
  | workers {v : Value} {n : Int} (hv : v.StandsFor n) (hn : 1 ≤ n) : Admits .workers v
  | platformVersion {t : Text} (ht : t ≠ []) : Admits .platformVersion (.str t)

namespace Setting

theorem isWhole_iff {v : Value} : isWhole v = true ↔ ∃ n, v.StandsFor n := by
  constructor
  · intro h
    cases v with
    | int n => exact ⟨n, .int n⟩
    | float x =>
        obtain ⟨n, hn⟩ := Option.isSome_iff_exists.1 h
        obtain ⟨hfinite, hnumber⟩ := Binary64.toInt?_eq_some_iff.1 hn
        exact ⟨n, .float hfinite hnumber⟩
    | _ => cases h
  · rintro ⟨n, hv⟩
    cases hv with
    | int => rfl
    | float hfinite hn =>
        exact Option.isSome_iff_exists.2 ⟨n, Binary64.toInt?_eq_some_iff.2 ⟨hfinite, hn⟩⟩

/-- A value that stands for an integer is below one as that is. -/
theorem isBelowOne_iff {v : Value} {n : Int} (h : v.StandsFor n) : isBelowOne v = true ↔ n < 1 := by
  cases h with
  | int => exact decide_eq_true_iff
  | float hfinite hn =>
      show Binary64.belowOne _ = true ↔ n < 1
      rw [Binary64.belowOne_iff hfinite, hn]
      exact_mod_cast Iff.rfl

/-- Counts are checked alike: a value without a fraction that is not below one. -/
theorem count_check_iff {v : Value} {f g : SettingFault} :
    (if !isWhole v then some f else if isBelowOne v then some g else none) = none ↔
      ∃ n, v.StandsFor n ∧ 1 ≤ n := by
  by_cases hwhole : isWhole v = true
  · obtain ⟨n, hv⟩ := isWhole_iff.1 hwhole
    have hbelow := isBelowOne_iff hv
    rw [hwhole, Bool.not_true, if_neg Bool.false_ne_true]
    constructor
    · intro h
      refine ⟨n, hv, Int.not_lt.1 fun hlt => ?_⟩
      rw [if_pos (hbelow.2 hlt)] at h
      cases h
    · rintro ⟨m, hm, hle⟩
      refine if_neg fun htrue => ?_
      exact absurd ((isBelowOne_iff hm).1 htrue) (Int.not_lt.2 hle)
  · have hnone : ¬ ∃ n, v.StandsFor n := fun h => hwhole (isWhole_iff.2 h)
    refine iff_of_false ?_ fun ⟨n, hv, _⟩ => hnone ⟨n, hv⟩
    simp [hwhole]

/-- **A value is found right for a setting** exactly if the setting admits it. -/
theorem check_eq_none_iff {s : Setting} {v : Value} : s.check v = none ↔ s.Admits v := by
  cases s with
  | leastHelp =>
      show (if !isWhole v then _ else if isBelowOne v then _ else none) = none ↔ _
      rw [count_check_iff]
      constructor
      · rintro ⟨n, hv, hn⟩
        exact .leastHelp hv hn
      · rintro ⟨hv, hn⟩
        exact ⟨_, hv, hn⟩
  | workers =>
      by_cases hnull : v = .null
      · subst hnull
        exact iff_of_true rfl .unlimited
      · have hcheck : Setting.workers.check v =
            if !isWhole v then some (.notInteger .workers v) else if isBelowOne v then some (.belowOne .workers v)
            else none := by
          cases v <;> first | exact absurd rfl hnull | rfl
        rw [hcheck, count_check_iff]
        constructor
        · rintro ⟨n, hv, hn⟩
          exact .workers hv hn
        · intro h
          cases h with
          | unlimited => exact absurd rfl hnull
          | workers hv hn => exact ⟨_, hv, hn⟩
  | platformVersion =>
      constructor
      · intro h
        cases v with
        | str t =>
            refine .platformVersion ?_
            rintro rfl
            cases h
        | _ => cases h
      · intro h
        cases h with
        | platformVersion ht => exact if_neg fun hempty => ht (List.isEmpty_iff.1 hempty)

/-- Settings are told apart by their names. -/
theorem name_injective : Function.Injective name := by
  intro s r h
  cases s <;> cases r <;> first | rfl | exact absurd h (by decide)

theorem ofName?_eq_some_iff {n : Text} {s : Setting} : ofName? n = some s ↔ n = s.name := by
  constructor
  · intro h
    have hname := List.find?_some h
    exact (of_decide_eq_true hname).symm
  · rintro rfl
    cases s <;> rfl

theorem mem_reported (s : Setting) : s ∈ reported := by cases s <;> simp [reported]

end Setting

namespace Settings

variable {v : Value} {entries : List (Value × Value)}

/-! ## Values that give settings -/

/-- The entries of a mapping that gives settings: each key is the name of a setting, which admits the value. -/
def Allowed (entries : List (Value × Value)) : Prop :=
  ∀ e ∈ entries, ∃ s : Setting, e.1 = .str s.name ∧ s.Admits e.2

/-- **The values that give settings**: null, and mappings whose entries are all allowed. -/
def Allows (v : Value) : Prop := v.unfolded = .null ∨ ∃ entries, v.unfolded = .map entries ∧ Allowed entries

theorem allows_iff (h : v.unfolded = .map entries) : Allows v ↔ Allowed entries := by
  constructor
  · rintro (hnull | ⟨found, hfound, hall⟩)
    · cases hnull.symm.trans h
    · cases hfound.symm.trans h
      exact hall
  · exact fun hall => Or.inr ⟨entries, h, hall⟩

/-- The entries of a value that gives settings are all allowed, if it has any. -/
theorem Allows.allowed (h : Allows v) : Allowed v.entries := by
  rcases h with hnull | ⟨entries, hmap, hall⟩
  · rw [Value.entries_eq_nil fun es hes => nomatch hnull.symm.trans hes]
    exact fun e he => absurd he List.not_mem_nil
  · rwa [Value.entries_eq hmap]

theorem Allowed.perm {found : List (Value × Value)} (h : entries.Perm found) : Allowed entries ↔ Allowed found := by
  unfold Allowed
  simp only [h.mem_iff]

theorem mem_unknownKeys {k : Value} :
    k ∈ unknownKeys entries ↔ k ∈ entries.map (·.1) ∧ ∀ s : Setting, k ≠ .str s.name := by
  unfold unknownKeys
  rw [List.mem_filter]
  refine and_congr_right fun _ => ?_
  cases k with
  | str n =>
      show (Setting.ofName? n).isNone = true ↔ _
      rw [Option.isNone_iff_eq_none, Option.eq_none_iff_forall_ne_some]
      simp only [ne_eq, Setting.ofName?_eq_some_iff, Value.str.injEq]
  | _ => simp

/-- The faults of entries: keys that are no settings, and values that their settings do not admit. -/
theorem mem_faultsOf (h : Value.DistinctKeys entries) {f : SettingFault} :
    f ∈ faultsOf entries ↔
      f = .unknown (unknownKeys entries) ∧ unknownKeys entries ≠ [] ∨
        ∃ (s : Setting) (x : Value), (.str s.name, x) ∈ entries ∧ s.check x = some f := by
  unfold faultsOf
  rw [List.mem_append, List.mem_filterMap]
  refine or_congr ?_ ?_
  · by_cases hunknown : unknownKeys entries = []
    · simp [hunknown]
    · simp [hunknown]
  · constructor
    · rintro ⟨s, -, hs⟩
      obtain ⟨x, hx, hcheck⟩ := Option.bind_eq_some_iff.1 hs
      exact ⟨s, x, (Value.get?_eq_some_iff h).1 hx, hcheck⟩
    · rintro ⟨s, x, hx, hcheck⟩
      exact ⟨s, s.mem_reported, Option.bind_eq_some_iff.2 ⟨x, (Value.get?_eq_some_iff h).2 hx, hcheck⟩⟩

/-- **Entries have no fault** exactly if they are all allowed. -/
theorem faultsOf_eq_nil_iff (h : Value.DistinctKeys entries) : faultsOf entries = [] ↔ Allowed entries := by
  rw [List.eq_nil_iff_forall_not_mem]
  constructor
  · intro hnone e he
    -- The key is known, and the value found under it is admitted.
    have hknown : ∃ s : Setting, e.1 = .str s.name := by
      by_contra hother
      have hmem : e.1 ∈ unknownKeys entries :=
        mem_unknownKeys.2 ⟨List.mem_map_of_mem he, fun s hs => hother ⟨s, hs⟩⟩
      exact hnone _ ((mem_faultsOf h).2 (Or.inl ⟨rfl, List.ne_nil_of_mem hmem⟩))
    obtain ⟨s, hs⟩ := hknown
    refine ⟨s, hs, Setting.check_eq_none_iff.1 (Option.eq_none_iff_forall_ne_some.2 fun f hf => ?_)⟩
    exact hnone f ((mem_faultsOf h).2 (Or.inr ⟨s, e.2, hs ▸ he, hf⟩))
  · intro hall f hf
    rcases (mem_faultsOf h).1 hf with ⟨-, hne⟩ | ⟨s, x, hx, hcheck⟩
    · obtain ⟨k, hk⟩ := List.exists_mem_of_ne_nil _ hne
      obtain ⟨hkey, hother⟩ := mem_unknownKeys.1 hk
      obtain ⟨e, he, rfl⟩ := List.mem_map.1 hkey
      obtain ⟨s, hs, -⟩ := hall e he
      exact hother s hs
    · obtain ⟨r, hr, hadmits⟩ := hall _ hx
      cases Setting.name_injective (Value.str.inj hr)
      rw [Setting.check_eq_none_iff.2 hadmits] at hcheck
      cases hcheck

theorem faultOf_eq_none_iff (h : Value.DistinctKeys entries) : faultOf entries = none ↔ Allowed entries := by
  rw [← faultsOf_eq_nil_iff h]
  unfold faultOf
  extract_lets faults
  split
  · next hlong =>
      refine iff_of_false nofun fun hnil => ?_
      have hnone : faults.any SettingFault.isLong = false := by
        show (faultsOf entries).any SettingFault.isLong = false
        rw [hnil]
        rfl
      rw [hnone] at hlong
      cases hlong
  · exact List.head?_eq_none_iff

/-! ## Settings that are given -/

/-- Each setting is the one of the file, or else the default one. -/
structure Overlays (s : Settings) (v : Value) : Prop where
  given : ∀ (setting : Setting) (x : Value), (.str setting.name, x) ∈ v.entries → s.get setting = x
  absent : ∀ setting : Setting, (∀ x, (.str setting.name, x) ∉ v.entries) →
    s.get setting = ({} : Settings).get setting

theorem get_withGiven (value? : Setting → Option Value) (setting : Setting) :
    (withGiven value?).get setting = (value? setting).getD (({} : Settings).get setting) := by
  unfold withGiven Setting.all
  cases hleast : value? .leastHelp <;> cases hworkers : value? .workers <;>
    cases hversion : value? .platformVersion <;> cases setting <;>
    simp [hleast, hworkers, hversion, assign, get]

theorem overlays_withGiven (h : Value.DistinctKeys v.entries) :
    Overlays (withGiven fun s => Value.get? (.str s.name) v.entries) v where
  given setting x hx := by
    rw [get_withGiven, (Value.get?_eq_some_iff h).2 hx]
    rfl
  absent setting hnone := by
    have hget : Value.get? (.str setting.name) v.entries = none :=
      Option.eq_none_iff_forall_ne_some.2 fun x hx => hnone x ((Value.get?_eq_some_iff h).1 hx)
    rw [get_withGiven, hget]
    rfl

theorem ext_get {s r : Settings} (h : ∀ setting, s.get setting = r.get setting) : s = r := by
  have hleast := h .leastHelp
  have hworkers := h .workers
  have hversion := h .platformVersion
  cases s
  cases r
  cases hleast
  cases hworkers
  cases hversion
  rfl

/-- A value is laid over the default settings in one way. -/
theorem Overlays.unique {s r : Settings} (hs : Overlays s v) (hr : Overlays r v) : s = r := by
  refine ext_get fun setting => ?_
  by_cases hgiven : ∃ x, (.str setting.name, x) ∈ v.entries
  · obtain ⟨x, hx⟩ := hgiven
    rw [hs.given setting x hx, hr.given setting x hx]
  · have hnone : ∀ x, (.str setting.name, x) ∉ v.entries := fun x hx => hgiven ⟨x, hx⟩
    rw [hs.absent setting hnone, hr.absent setting hnone]

/-- **The order of entries makes no difference** to the settings that they give. -/
theorem Overlays.perm {w : Value} {s : Settings} (hperm : v.entries.Perm w.entries) :
    Overlays s v ↔ Overlays s w := by
  constructor
  · intro h
    exact ⟨fun setting x hx => h.given setting x (hperm.mem_iff.2 hx),
      fun setting hnone => h.absent setting fun x hx => hnone x (hperm.mem_iff.1 hx)⟩
  · intro h
    exact ⟨fun setting x hx => h.given setting x (hperm.mem_iff.1 hx),
      fun setting hnone => h.absent setting fun x hx => hnone x (hperm.mem_iff.2 hx)⟩

/-- Every default setting is one that its setting admits. -/
theorem admits_default (setting : Setting) : setting.Admits (({} : Settings).get setting) := by
  rw [← Setting.check_eq_none_iff]
  cases setting <;> decide

/-- **Every setting is one that its setting admits**, whether a value gives it or not. -/
theorem Overlays.admits {s : Settings} (h : Overlays s v) (hallows : Allows v) (setting : Setting) :
    setting.Admits (s.get setting) := by
  by_cases hgiven : ∃ x, (.str setting.name, x) ∈ v.entries
  · obtain ⟨x, hx⟩ := hgiven
    obtain ⟨r, hr, hadmits⟩ := hallows.allowed _ hx
    cases Setting.name_injective (Value.str.inj hr)
    rw [h.given setting x hx]
    exact hadmits
  · rw [h.absent setting fun x hx => hgiven ⟨x, hx⟩]
    exact admits_default setting

/-- **A value gives settings** exactly if it is allowed to, and they are laid over the default ones. -/
theorem ofValue_eq_ok_iff (h : Value.DistinctKeys v.entries) {s : Settings} :
    ofValue v = .ok s ↔ Allows v ∧ Overlays s v := by
  unfold ofValue
  split
  · next hnull =>
      have hnone : v.entries = [] := Value.entries_eq_nil fun es hes => nomatch hnull.symm.trans hes
      have hdefault : Overlays {} v := by
        refine ⟨?_, fun _ _ => rfl⟩
        intro setting x hx
        rw [hnone] at hx
        cases hx
      constructor
      · intro heq
        cases heq
        exact ⟨Or.inl hnull, hdefault⟩
      · rintro ⟨-, hs⟩
        rw [hs.unique hdefault]
  · next entries hmap =>
      have hentries : v.entries = entries := Value.entries_eq hmap
      have hover := overlays_withGiven h
      rw [hentries] at h hover
      rw [allows_iff hmap, ← faultOf_eq_none_iff h]
      cases hfault : faultOf entries with
      | some f => simp
      | none =>
          constructor
          · intro heq
            cases heq
            exact ⟨rfl, hover⟩
          · rintro ⟨-, hs⟩
            rw [hs.unique hover]
  · next hnull hmap =>
      refine iff_of_false nofun ?_
      rintro ⟨hv | ⟨entries, hv, -⟩, -⟩
      · exact hnull hv
      · exact hmap entries hv

/-! ## Faults that cannot be put into words -/

/-- What is wrong with a value cannot be put into words, as an integer that is too long is in a key that is no
setting, or in the value of a setting that does not admit it. -/
def Unspeakable (v : Value) : Prop :=
  ∃ e ∈ v.entries, (∀ s : Setting, e.1 ≠ .str s.name) ∧ e.1.isLong = true ∨
    ∃ s : Setting, e.1 = .str s.name ∧ ¬ s.Admits e.2 ∧ e.2.isLong = true

/-- Entries that are all allowed have no fault to be put into words. -/
theorem Allows.not_unspeakable (h : Allows v) : ¬ Unspeakable v := by
  rintro ⟨e, he, hlong⟩
  obtain ⟨s, hs, hadmits⟩ := h.allowed e he
  rcases hlong with ⟨hother, -⟩ | ⟨r, hr, hrefused, -⟩
  · exact hother s hs
  · cases Setting.name_injective (Value.str.inj (hs.symm.trans hr))
    exact hrefused hadmits

/-- What is wrong with a value is as long as the value. -/
theorem isLong_of_check {s : Setting} {x : Value} {f : SettingFault} (h : s.check x = some f) :
    f.isLong = x.isLong := by
  unfold Setting.check at h
  repeat' split at h
  all_goals cases h
  all_goals rfl

theorem isUnsaid_iff (h : Value.DistinctKeys v.entries) : IsUnsaid v ↔ Unspeakable v := by
  constructor
  · rintro ⟨entries, hmap, hany⟩
    have hentries : v.entries = entries := Value.entries_eq hmap
    rw [hentries] at h
    obtain ⟨f, hf, hlong⟩ := List.any_eq_true.1 hany
    unfold Unspeakable
    rw [hentries]
    rcases (mem_faultsOf h).1 hf with ⟨rfl, -⟩ | ⟨s, x, hx, hcheck⟩
    · obtain ⟨k, hk, hkey⟩ := List.any_eq_true.1 hlong
      obtain ⟨hmem, hother⟩ := mem_unknownKeys.1 hk
      obtain ⟨e, he, rfl⟩ := List.mem_map.1 hmem
      exact ⟨e, he, Or.inl ⟨hother, hkey⟩⟩
    · refine ⟨_, hx, Or.inr ⟨s, rfl, ?_, (isLong_of_check hcheck).symm.trans hlong⟩⟩
      intro hadmits
      rw [Setting.check_eq_none_iff.2 hadmits] at hcheck
      cases hcheck
  · rintro ⟨e, he, hlong⟩
    have hmap : v.unfolded = .map v.entries := by
      by_contra hother
      have hnil : v.entries = [] := Value.entries_eq_nil fun es hes => hother (by rw [hes, Value.entries_eq hes])
      rw [hnil] at he
      cases he
    refine ⟨v.entries, hmap, List.any_eq_true.2 ?_⟩
    rcases hlong with ⟨hother, hkey⟩ | ⟨s, hs, hrefused, hvalue⟩
    · have hunknown : e.1 ∈ unknownKeys v.entries := mem_unknownKeys.2 ⟨List.mem_map_of_mem he, hother⟩
      exact ⟨_, (mem_faultsOf h).2 (Or.inl ⟨rfl, List.ne_nil_of_mem hunknown⟩),
        List.any_eq_true.2 ⟨e.1, hunknown, hkey⟩⟩
    · obtain ⟨f, hf⟩ := Option.ne_none_iff_exists'.1 fun hnone => hrefused (Setting.check_eq_none_iff.1 hnone)
      exact ⟨f, (mem_faultsOf h).2 (Or.inr ⟨s, e.2, hs ▸ he, hf⟩), (isLong_of_check hf).trans hvalue⟩

/-! ## Files -/

variable {t : Tree} {given : Option Path} {text : Text}

/-- A file whose text is read to a value is loaded as the value says. -/
theorem load_of_text (htext : t.HoldsText (place given).1 text) (hread : Yaml.read text = .ok v) :
    load t given = (ofRead (place given).2 (.ok v)).map fun s =>
      (s, ("Loaded configuration from " : Text) ++ (place given).2) := by
  obtain ⟨bytes, source, hfile, hsource, rfl⟩ := htext
  have hvalue : fileValue bytes = .ok v := by
    rw [fileValue_of_encode hsource, hread]
    rfl
  unfold load
  rw [load_of_file hfile, hvalue]

/-- **How a value in a file is loaded**: as settings, or refused with a fault of them, or with one that is not. -/
theorem load_of_read (htext : t.HoldsText (place given).1 text) (hread : Yaml.read text = .ok v) :
    (∃ s note, load t given = .ok (s, note) ∧ Allows v ∧ Overlays s v) ∨
      ((∃ details, load t given = .error (.settings details)) ∧ ¬ Allows v ∧ ¬ Unspeakable v) ∨
      (load t given = .error (.value .long) ∧ ¬ Allows v ∧ Unspeakable v) := by
  have hkeys := Yaml.distinctKeys_of_read hread
  rw [load_of_text htext hread, ofRead]
  cases hv : ofValue v with
  | ok s => exact Or.inl ⟨s, _, rfl, (ofValue_eq_ok_iff hkeys).1 hv⟩
  | error f =>
      have hrefused : ¬ Allows v := by
        intro hallows
        have hgives := (ofValue_eq_ok_iff hkeys).2 ⟨hallows, overlays_withGiven hkeys⟩
        cases hgives.symm.trans hv
      by_cases hf : f = .unsaid
      · subst hf
        exact Or.inr (Or.inr ⟨rfl, hrefused, (isUnsaid_iff hkeys).1 (ofValue_eq_unsaid_iff.1 hv)⟩)
      · refine Or.inr (Or.inl ⟨?_, hrefused, ?_⟩)
        · cases f <;> first | exact absurd rfl hf | exact ⟨_, rfl⟩
        · intro hlong
          rw [ofValue_eq_unsaid_iff.2 ((isUnsaid_iff hkeys).2 hlong)] at hv
          cases hv
          exact hf rfl

/-- The settings of a file are those that lie over the default ones, if its value gives any. -/
theorem load_eq_ok_iff (htext : t.HoldsText (place given).1 text) (hread : Yaml.read text = .ok v) {s : Settings} :
    (∃ note, load t given = .ok (s, note)) ↔ Allows v ∧ Overlays s v := by
  rcases load_of_read htext hread with ⟨r, note, hr, hallows, hover⟩ | ⟨⟨details, hr⟩, hrefused, -⟩ | ⟨hr, hrefused, -⟩
  · constructor
    · rintro ⟨other, hs⟩
      cases hs.symm.trans hr
      exact ⟨hallows, hover⟩
    · rintro ⟨-, hs⟩
      rw [hs.unique hover]
      exact ⟨note, hr⟩
  · refine iff_of_false ?_ fun h => hrefused h.1
    rintro ⟨other, hs⟩
    cases hs.symm.trans hr
  · refine iff_of_false ?_ fun h => hrefused h.1
    rintro ⟨other, hs⟩
    cases hs.symm.trans hr

/-- **Which files give settings, and which settings they give**, for every file whose text is read as a value. It
gives settings exactly if the value is null or a mapping of names of settings to values that those admit. Each setting
is then the value of the file, or the default one where the file has none, whatever the order of the entries. Every
other value is refused with a fault of the settings, but for those whose fault cannot be put into words. -/
theorem file_settings (t : Tree) (given : Option Path) (text : Text) (v : Value)
    (htext : t.HoldsText (place given).1 text) (hread : Yaml.read text = .ok v) :
    ((∃ s note, load t given = .ok (s, note)) ↔ Allows v) ∧
      (∀ s note, load t given = .ok (s, note) → Overlays s v) ∧
      (∀ (u : Tree) (other : Option Path) (source : Text) (w : Value) (entries found : List (Value × Value)),
        u.HoldsText (place other).1 source → Yaml.read source = .ok w →
        v.unfolded = .map entries → w.unfolded = .map found → found.Perm entries →
        ∀ s, (∃ note, load t given = .ok (s, note)) ↔ ∃ note, load u other = .ok (s, note)) ∧
      ((∃ details, load t given = .error (.settings details)) ↔ ¬ Allows v ∧ ¬ Unspeakable v) ∧
      (load t given = .error (.value .long) ↔ Unspeakable v) := by
  have hcases := load_of_read htext hread
  refine ⟨⟨?_, ?_⟩, ?_, ?_, ⟨?_, ?_⟩, ⟨?_, ?_⟩⟩
  · rintro ⟨s, note, hload⟩
    exact ((load_eq_ok_iff htext hread).1 ⟨note, hload⟩).1
  · intro hallows
    have hover := overlays_withGiven (Yaml.distinctKeys_of_read hread)
    exact ⟨_, (load_eq_ok_iff htext hread).2 ⟨hallows, hover⟩⟩
  · intro s note hload
    exact ((load_eq_ok_iff htext hread).1 ⟨note, hload⟩).2
  · intro u other source w entries found hsource hw hentries hfound hperm s
    rw [load_eq_ok_iff htext hread, load_eq_ok_iff hsource hw, allows_iff hentries, allows_iff hfound]
    have hover : w.entries.Perm v.entries := by rwa [Value.entries_eq hentries, Value.entries_eq hfound]
    exact and_congr (Allowed.perm hperm.symm) (Overlays.perm hover.symm)
  · rintro ⟨details, hload⟩
    rcases hcases with ⟨s, note, hother, -⟩ | ⟨-, hrefused⟩ | ⟨hother, -⟩
    · cases hload.symm.trans hother
    · exact hrefused
    · cases hload.symm.trans hother
  · rintro ⟨hrefused, hsaid⟩
    rcases hcases with ⟨s, note, -, hallows, -⟩ | ⟨hload, -⟩ | ⟨-, -, hlong⟩
    · exact absurd hallows hrefused
    · exact hload
    · exact absurd hlong hsaid
  · intro hload
    rcases hcases with ⟨s, note, hother, -⟩ | ⟨⟨details, hother⟩, -⟩ | ⟨-, -, hlong⟩
    · cases hload.symm.trans hother
    · cases hload.symm.trans hother
    · exact hlong
  · intro hlong
    rcases hcases with ⟨s, note, -, hallows, -⟩ | ⟨-, -, hsaid⟩ | ⟨hload, -⟩
    · exact absurd hlong hallows.not_unspeakable
    · exact absurd hlong hsaid
    · exact hload

/-- A file of two settings. -/
def twoSettings : Text := "max_workers: 2\nmin_help_text_length: 25.0\n"

/-- Nothing stands in the way of a file of settings. -/
theorem fileName_free : Tree.empty.at? [] = some .dir ∧ Tree.empty.at? ([] ++ [fileName]) = none := by decide

/-- The tree in which it stands. -/
def settingsTree : Tree := Tree.empty.place [] fileName (.file (twoSettings.map UInt8.ofNat)) fileName_free

/-- The nodes of its text. -/
def settingsNodes : Yaml.Nodes :=
  #[.mapping .map [(1, 2), (3, 4)], .scalar .str "max_workers", .scalar .int "2",
    .scalar .str "min_help_text_length", .scalar .float "25.0"]

/-- The value of its text. -/
def settingsValue : Value :=
  .map [(.str "max_workers", .int 2), (.str "min_help_text_length", .float (.ofInt 25))]

theorem read_twoSettings : Yaml.read twoSettings = .ok settingsValue := by
  have hallowed : twoSettings.all Yaml.isAllowed = true := by
    simp (disch := exact rfl) only [twoSettings, Text.ofString_eq]
    decide +kernel
  have hnodes : Yaml.documentOf (Yaml.tokens twoSettings) = .ok (some (0, settingsNodes)) := by
    apply eq_ok_of_toOption
    simp (disch := exact rfl) only [twoSettings, settingsNodes, Text.ofString_eq]
    decide +kernel
  unfold Yaml.read
  rw [if_pos hallowed, hnodes]
  simp (disch := exact rfl) only [settingsNodes, settingsValue, Text.ofString_eq]
  rfl

theorem settingsTree_gives :
    settingsTree.HoldsText (place none).1 twoSettings ∧ Yaml.read twoSettings = .ok settingsValue ∧
      ∃ s note, load settingsTree none = .ok (s, note) := by
  have htext : settingsTree.HoldsText (place none).1 twoSettings :=
    ⟨_, twoSettings, Tree.stat?_eq_some_iff.1 rfl, by decide, by decide⟩
  have hfile := file_settings settingsTree none twoSettings settingsValue htext read_twoSettings
  refine ⟨htext, read_twoSettings, hfile.1.2 (Or.inr ⟨_, rfl, ?_⟩)⟩
  intro e he
  rcases List.mem_cons.1 he with rfl | he
  · exact ⟨.workers, rfl, .workers (.int 2) (by decide)⟩
  · cases List.mem_singleton.1 he
    have hwhole : (Binary64.ofInt 25).toInt? = some 25 := by decide +kernel
    obtain ⟨hfinite, hnumber⟩ := Binary64.toInt?_eq_some_iff.1 hwhole
    exact ⟨.leastHelp, rfl, .leastHelp (.float hfinite hnumber) (by decide)⟩

end Settings
end StepForge
