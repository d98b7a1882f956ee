import StepForge.Proofs.Conversion.Halted
import StepForge.Proofs.Conversion.Written

/-!
# `StepForge.Proofs.Conversion.Succeeded` — what a conversion that ended well has done

Here nothing is asked of a tree but that the conversion ended well. That one by one the tasks ended well says
that each has put all bytes of its text into its file, and a later task of another name has spared it. And
no step of a task changes anything but planned places and, where nothing stood, the directories that lead to
them.

## Contents
- `Alters`, `advance_alters` — what steps of tasks can change at all.
- `runTasks_alters`, `runTasks_completes` — tasks one after another.
- `convert_alters` — what a conversion can change, however it ends.
- `convert_completes`, `convert_files` — what a conversion that ended well has written.
-/

namespace StepForge.Conversion

/-! ## What can change -/

/-- Of two trees the second is the first but for planned places and new directories that lead to them. -/
def Alters (app : App) (out : Path) (t u : Tree) : Prop :=
  ∀ l, u.at? l = t.at? l ∨ l ∈ places app out ∨
    t.at? l = none ∧ u.at? l = some .dir ∧ ∃ b ∈ plan app, l ∈ (b.path out).ancestors

section Steps

variable {app : App} {settings : Settings} {out : Path} {task : Task} {tasks : List Task}

theorem Alters.refl (app : App) (out : Path) (t : Tree) : Alters app out t t := fun _ => Or.inl rfl

theorem Alters.trans {t u v : Tree} (h : Alters app out t u) (k : Alters app out u v) : Alters app out t v := by
  intro l
  rcases k l with hsame | hplace | ⟨hnone, hdir, hanc⟩
  · rw [hsame]
    exact h l
  · exact Or.inr (Or.inl hplace)
  · rcases h l with hsame | hplace | ⟨_, hthere, _⟩
    · rw [hsame] at hnone
      exact Or.inr (Or.inr ⟨hnone, hdir, hanc⟩)
    · exact Or.inr (Or.inl hplace)
    · rw [hnone] at hthere
      cases hthere

theorem alters_of_makeDir (htask : task ∈ plan app) {depth : Nat} {t u : Tree}
    (h : t.makeDir ((task.folder out).upTo depth) = .ok u) : Alters app out t u := by
  obtain ⟨hnone, hview⟩ := Tree.at?_of_makeDir h
  intro l
  by_cases hl : l = ((task.folder out).upTo depth).place
  · subst hl
    refine Or.inr (Or.inr ⟨hnone, ?_, task, htask, place_folder_mem_ancestors htask out depth⟩)
    rw [hview, withDirs_of_mem (by simp)]
  · refine Or.inl ?_
    rw [hview, withDirs_of_notMem (by simpa using hl)]

theorem alters_of_writeBytes (htask : task ∈ plan app) {bytes : List UInt8} {t u : Tree}
    (h : t.writeBytes (task.path out) bytes = .ok u) : Alters app out t u := by
  obtain ⟨_, _, _, hview⟩ := Tree.at?_of_writeBytes h
  intro l
  by_cases hl : l = (task.path out).place
  · subst hl
    exact Or.inr (Or.inl (mem_places htask))
  · refine Or.inl ?_
    rw [hview, withFile_of_ne hl]

/-- Rendering a file keeps a library of the bundled templates honest. -/
theorem honest_render {t : Tree} {l : Template.Library} (h : l.Honest) (a : Artifact) :
    (a.render app settings t l).2.Honest := by
  unfold Artifact.render fillWith Engine.fillWith
  cases a.bindings app settings with
  | error fault => exact h
  | ok values =>
      show Template.Library.Honest (nodeEngine.fill t l a.template values).2
      rcases Engine.fill_store nodeEngine t l a.template values with hsame | ⟨nodes, hload⟩
      · rw [hsame]
        exact h
      · exact h.load hload

/-- **What one step of one task can change** of a tree and a library. -/
theorem advance_alters (htask : task ∈ plan app) (settings : Settings) (out : Path) (s : Shared) (stage : Stage) :
    let r := advance app settings out task s stage
    Alters app out s.tree r.1.tree ∧ (s.library.Honest → r.1.library.Honest) := by
  have htried : ∀ text depth missing,
      let r := tried s (task.folder out) text depth missing (s.tree.makeDir ((task.folder out).upTo depth))
      Alters app out s.tree r.1.tree ∧ (s.library.Honest → r.1.library.Honest) := by
    intro text depth missing
    cases hmade : s.tree.makeDir ((task.folder out).upTo depth) with
    | ok t => exact ⟨alters_of_makeDir htask hmade, id⟩
    | error fault =>
        cases fault with
        | nullCharacter => exact ⟨Alters.refl _ _ _, id⟩
        | system cause p => cases cause <;> exact ⟨Alters.refl _ _ _, id⟩
  -- Rendering fills the library; only new directories and writing change the tree.
  cases stage with
  | planned => exact ⟨Alters.refl _ _ _, fun h => honest_render h task.artifact⟩
  | descending text depth => exact htried text depth _
  | ascending text depth => exact htried text depth _
  | checking text depth fault => exact ⟨Alters.refl _ _ _, id⟩
  | emptying text =>
      rw [advance]
      cases hwrite : s.tree.writeBytes (task.path out) [] with
      | error fault => exact ⟨Alters.refl _ _ _, id⟩
      | ok t => exact ⟨alters_of_writeBytes htask hwrite, id⟩
  | filling bytes =>
      rw [advance]
      cases hwrite : s.tree.writeBytes (task.path out) bytes with
      | error fault => exact ⟨Alters.refl _ _ _, id⟩
      | ok t => exact ⟨alters_of_writeBytes htask hwrite, id⟩
  | done r => exact ⟨Alters.refl _ _ _, id⟩

/-- What a task that runs alone can change. -/
theorem Leads.alters (htask : task ∈ plan app) {a b : Shared × Stage} (h : Leads app settings out task a b) :
    Alters app out a.1.tree b.1.tree ∧ (a.1.library.Honest → b.1.library.Honest) := by
  induction h with
  | refl => exact ⟨Alters.refl _ _ _, id⟩
  | @tail c d _ hstep ih =>
      obtain ⟨halters, hhonest⟩ := advance_alters htask settings out c.1 c.2
      rw [← hstep]
      exact ⟨ih.1.trans halters, fun hl => hhonest (ih.2 hl)⟩

/-- **What tasks can change**, however they end. -/
theorem runTasks_alters (hplan : ∀ task ∈ tasks, task ∈ plan app) (settings : Settings) (out : Path) (v : Workshop) :
    let r := runTasks app settings out tasks v
    Alters app out v.tree r.2.tree ∧ (v.library.Honest → r.2.library.Honest) := by
  induction tasks generalizing v with
  | nil => exact ⟨Alters.refl _ _ _, id⟩
  | cons first tasks ih =>
      have hlead : Leads app settings out first (v.shared, .planned) _ := runTask_leads v
      obtain ⟨halters, hhonest⟩ := hlead.alters (hplan first List.mem_cons_self)
      unfold runTasks
      generalize runTask app settings out first v = r at halters hhonest
      obtain ⟨result, u⟩ := r
      cases result with
      | error f => exact ⟨halters, hhonest⟩
      | ok p =>
          obtain ⟨hrest, hlast⟩ := ih (fun task htask => hplan task (List.mem_cons_of_mem _ htask)) u
          exact ⟨halters.trans hrest, fun hl => hlast (hhonest hl)⟩

/-! ## What is written -/

/-- **Tasks that all ended well**: behind them the file of the last task of each name is complete. -/
theorem runTasks_completes {done : List Task} (hplan : ∀ task ∈ done ++ tasks, task ∈ plan app) (v : Workshop)
    (hdone : ∀ name last, lastNamed done name = some last → Complete app settings out last v.shared)
    (hgood : ∀ o ∈ (runTasks app settings out tasks v).1, Good o) :
    ∀ name last, lastNamed (done ++ tasks) name = some last →
      Complete app settings out last (runTasks app settings out tasks v).2.shared := by
  -- What was complete behind `done` stays complete: a task spares the files of all other names.
  induction tasks generalizing done v with
  | nil => simpa [runTasks] using hdone
  | cons first tasks ih =>
      have hfirst : first ∈ plan app := hplan first (by simp)
      obtain ⟨hspares, hcomplete⟩ := runTask_completes hfirst settings out v
      unfold runTasks at hgood ⊢
      generalize runTask app settings out first v = r at hspares hcomplete hgood
      obtain ⟨result, u⟩ := r
      cases result with
      | error f =>
          obtain ⟨p, hp⟩ := hgood _ (List.mem_singleton_self _)
          cases hp
      | ok p =>
          rw [List.append_cons]
          refine ih (by simpa using hplan) u ?_ fun o ho => hgood o (List.mem_cons_of_mem _ ho)
          intro name last hlast
          rw [lastNamed_append] at hlast
          split at hlast
          · cases hlast
            exact hcomplete p rfl
          · next hname =>
              obtain ⟨hmem, hlastName⟩ := mem_of_lastNamed hlast
              have hother : last.fileName ≠ first.fileName := fun heq => hname (heq ▸ hlastName)
              exact (hdone name last hlast).spared hspares.steady
                (hspares.others last (hplan last (List.mem_append_left _ hmem)) hother)

end Steps

/-! ## A whole conversion -/

section Convert

variable {app : App} {settings : Settings} {out : Path} {given : Value} {w : Workshop}

/-- **What a conversion can change**, however it ends: planned places, and directories that lead to them. -/
theorem convert_alters (app : App) (settings : Settings) (out : Path) (given : Value) (w : Workshop) :
    let after := (convert app settings out given w).2.shared
    Alters app out w.tree after.tree ∧ (w.library.Honest → after.library.Honest) := by
  cases hworkers : workersFault (workers settings given) with
  | some fault =>
      obtain ⟨_, hshared⟩ := convert_of_workersFault hworkers app out w
      rw [hshared]
      exact ⟨Alters.refl _ _ _, id⟩
  | none =>
      obtain ⟨noted, hnoted, _, hafter⟩ := convert_eq hworkers app out w
      rw [hafter, ← w.shared_tree, ← w.shared_library, ← hnoted]
      exact runTasks_alters (fun _ h => h) settings out noted

/-- **What a conversion that ended well has written**, whatever the tree: the file of every planned name is
complete, with the text of the last task of that name. -/
theorem convert_completes {paths : List Path} (h : (convert app settings out given w).1 = .ok paths) {name : Text}
    {last : Task} (hlast : lastNamed (plan app) name = some last) :
    Complete app settings out last (convert app settings out given w).2.shared := by
  cases hworkers : workersFault (workers settings given) with
  | some fault =>
      obtain ⟨hfault, _⟩ := convert_of_workersFault hworkers app out w
      rw [h] at hfault
      cases hfault
  | none =>
      obtain ⟨noted, _, hresult, hafter⟩ := convert_eq hworkers app out w
      rw [h] at hresult
      have hgood : ∀ o ∈ (runTasks app settings out (plan app) noted).1, Good o := by
        cases hcollect : collect [] (runTasks app settings out (plan app) noted).1 with
        | ok kept => exact exists_collect_eq_ok_iff.1 ⟨kept, hcollect⟩
        | error f =>
            rw [hcollect] at hresult
            cases hresult
      rw [hafter]
      have hnone : ∀ name last, lastNamed [] name = some last → Complete app settings out last noted.shared := by
        simp [lastNamed]
      have hplan : ∀ task ∈ [] ++ plan app, task ∈ plan app := fun _ ht => ht
      exact runTasks_completes hplan noted hnone hgood name last hlast

/-- With the bundled templates a file that is complete has the bytes that it would have had at first, in any
tree. -/
theorem Complete.bytes {s : Shared} {task : Task} (h : Complete app settings out task s)
    (hhonest : s.library.Honest) (t : Tree) :
    ∃ bytes, task.artifact.bytes app settings t Template.Library.standard = .ok bytes ∧
      s.tree.at? (task.place out) = some (.file bytes) := by
  obtain ⟨text, bytes, htext, hcode, hfile⟩ := h
  obtain ⟨values, nodes, hvalues, hgives, hrender⟩ := Artifact.render_eq_ok_iff.1 htext
  refine ⟨bytes, Artifact.bytes_eq_ok_iff.2 ⟨text, ?_, hcode⟩, hfile⟩
  exact Artifact.render_eq_ok_iff.2 ⟨values, nodes, hvalues,
    (hhonest.gives_iff task.artifact.template_relative).1 hgives, hrender⟩

/-- **The tree behind a conversion that ended well**: with the bundled templates every planned file holds what
the last task of its name renders, and elsewhere nothing is new but directories that lead to planned files. -/
theorem convert_files {paths : List Path} (h : (convert app settings out given w).1 = .ok paths)
    (hhonest : w.library.Honest) :
    let u := (convert app settings out given w).2.tree
    (∀ task ∈ plan app, ∃ last bytes, lastNamed (plan app) task.fileName = some last ∧
      last.artifact.bytes app settings w.tree Template.Library.standard = .ok bytes ∧
      u.at? (out / task.fileName).place = some (.file bytes)) ∧
    ∀ l, (∀ task ∈ plan app, l ≠ (out / task.fileName).place) →
      u.at? l = w.tree.at? l ∨
        w.tree.at? l = none ∧ u.at? l = some .dir ∧ ∃ task ∈ plan app, l ∈ (out / task.fileName).ancestors := by
  intro u
  obtain ⟨halters, hkept⟩ := convert_alters app settings out given w
  refine ⟨?_, ?_⟩
  · intro task htask
    obtain ⟨last, hlast⟩ := exists_lastNamed htask
    obtain ⟨bytes, hbytes, hfile⟩ := (convert_completes h hlast).bytes (hkept hhonest) w.tree
    refine ⟨last, bytes, hlast, hbytes, ?_⟩
    rw [← (mem_of_lastNamed hlast).2]
    exact hfile
  · intro l hl
    rcases halters l with hsame | hplace | hdir
    · exact Or.inl hsame
    · obtain ⟨task, htask, hplace⟩ := List.mem_map.1 hplace
      exact absurd hplace.symm (hl task htask)
    · exact Or.inr hdir

end Convert

end StepForge.Conversion
