import StepForge.Proofs.Conversion.Pool
import StepForge.Proofs.Conversion.Written

/-!
# `StepForge.Proofs.Conversion.Schedule` — the result does not depend on the order of steps

While tasks run side by side, what one step does is either nothing, or a directory on the way to a file
that was free, or bytes in a file of its own. Neither takes away what another task has found or made, so
whatever a stage says about the tree stays true under the steps of the others (`Stage.Sound.kept`). When all
tasks have ended, the tree is what they would have left one after another.

## Contents
- `Between` — the tree while tasks run.
- `Stage.Sound`, `advance_sound` — what a stage says about the tree, and one step of one task.
- `Pool.Sound`, `Pool.Sound.step` — the same for several tasks whose files differ.
- `convert_of_schedule` — every order of steps, and of the finished tasks, has the result of `convert`.
-/

namespace StepForge.Conversion

/-! ## The tree while tasks run -/

/-- A tree while planned files are written: more directories on the ways, and no directory for a file. -/
structure Between (app : App) (out : Path) (w : Workshop) (t : Tree) : Prop where
  ancestors : ∀ a ∈ plan app, ∀ l ∈ (a.path out).ancestors, t.at? l = w.tree.at? l ∨ t.at? l = some .dir
  rest : ∀ l, (∀ a ∈ plan app, l ≠ a.place out ∧ l ∉ (a.path out).ancestors) → t.at? l = w.tree.at? l
  notDir : ∀ a ∈ plan app, t.at? (a.place out) ≠ some .dir

section Tree

variable {app : App} {settings : Settings} {out : Path} {w : Workshop} {t u : Tree} {task : Task}

theorem Between.canWrite (h : Between app out w t) (hready : Ready app settings out w)
    (htask : task ∈ plan app) : t.CanWrite (task.path out) :=
  (hready.canWrite task htask).of_view (h.ancestors task htask) (h.notDir task htask)

theorem Between.refl (hready : Ready app settings out w) : Between app out w w.tree where
  ancestors _ _ _ _ := Or.inl rfl
  rest _ _ := rfl
  notDir a ha := (hready.canWrite a ha).notDir

theorem Touches.refl (h : t.at? (task.place out) ≠ some .dir) : Touches out task t t where
  dirs := Tree.DirsKept.refl t
  ancestors _ _ := Or.inl rfl
  elsewhere _ _ _ := rfl
  notDir := h

/-- A directory is made on the way to a file. -/
theorem Touches.of_makeDir {l : Location} (hl : l ∈ (task.path out).ancestors)
    (hcan : t.CanWrite (task.path out)) (hview : u.at? = withDirs [l] t.at?) : Touches out task t u where
  dirs := Tree.DirsKept.of_withDirs hview
  ancestors k _ := by
    rw [hview]
    unfold withDirs
    split
    · exact Or.inr rfl
    · exact Or.inl rfl
  elsewhere k hk _ := by
    have hne : k ∉ [l] := by
      intro hkl
      exact hk (List.mem_singleton.1 hkl ▸ hl)
    rw [hview, withDirs_of_notMem hne]
  notDir := by
    have hne : task.place out ∉ [l] := by
      intro hkl
      have heq : task.place out = l := List.mem_singleton.1 hkl
      exact hcan.outside (show task.place out ∈ _ from heq ▸ hl)
    rw [hview, withDirs_of_notMem hne]
    exact hcan.notDir

/-- Bytes are put into a file. -/
theorem Touches.of_write {bytes : List UInt8} (hcan : t.CanWrite (task.path out))
    (hview : u.at? = withFile (task.place out) bytes t.at?) : Touches out task t u where
  dirs := Tree.DirsKept.of_withFile hview hcan.notDir
  ancestors k hk := by
    have hne : k ≠ task.place out := by
      rintro rfl
      exact hcan.outside hk
    rw [hview, withFile_of_ne hne]
    exact Or.inl rfl
  elsewhere k _ hne := by rw [hview, withFile_of_ne hne]
  notDir := by
    rw [hview, withFile_self]
    simp

/-- A step of a task leaves the files of the others alone. -/
theorem Touches.place_eq (h : Touches out task t u) (hready : Ready app settings out w)
    (htask : task ∈ plan app) {a : Task} (ha : a ∈ plan app) (hname : a.fileName ≠ task.fileName) :
    u.at? (a.place out) = t.at? (a.place out) :=
  h.elsewhere _ (hready.notMem_ancestors ha htask) fun heq => hname ((place_eq_iff ha htask).1 heq)

/-- **One step more** in the tree. -/
theorem Between.touches (h : Between app out w t) (hready : Ready app settings out w)
    (htask : task ∈ plan app) (htouches : Touches out task t u) : Between app out w u where
  ancestors a ha l hl := by
    by_cases hanc : l ∈ (task.path out).ancestors
    · rcases htouches.ancestors l hanc with hu | hu
      · rw [hu]
        exact h.ancestors a ha l hl
      · exact Or.inr hu
    · have hne : l ≠ task.place out := by
        rintro rfl
        exact hready.notMem_ancestors htask ha hl
      rw [htouches.elsewhere l hanc hne]
      exact h.ancestors a ha l hl
  rest l hl := by
    obtain ⟨hne, hanc⟩ := hl task htask
    rw [htouches.elsewhere l hanc hne]
    exact h.rest l hl
  notDir a ha := by
    by_cases hname : a.fileName = task.fileName
    · rw [(place_eq_iff ha htask).2 hname]
      exact htouches.notDir
    · rw [htouches.place_eq hready htask ha hname]
      exact h.notDir a ha

end Tree

/-! ## What a stage says about the tree -/

section Stage

variable (app : App) (settings : Settings) (out : Path) (w : Workshop) (task : Task)

/-- A text whose bytes are those of the file. -/
def IsContent (text : Text) : Prop :=
  ∃ bytes, Utf8.encode text = .ok bytes ∧
    task.artifact.bytes app settings w.tree w.library = .ok bytes

/-- **What a stage says**: which directories are there, and what stands in the file. -/
def Stage.Sound (t : Tree) : Stage → Prop
  | .planned => True
  | .descending text depth =>
      IsContent app settings w task text ∧ depth ≤ (task.folder out).names.length
  | .ascending text depth =>
      IsContent app settings w task text ∧ depth ≤ (task.folder out).names.length ∧
        t.Reached ((task.folder out).upTo depth)
  | .checking text depth _ =>
      IsContent app settings w task text ∧ depth ≤ (task.folder out).names.length ∧
        t.Reached ((task.folder out).upTo depth) ∧
        t.at? ((task.folder out).upTo depth).place = some .dir
  | .emptying text => IsContent app settings w task text ∧ t.Reached (task.path out)
  | .filling bytes =>
      task.artifact.bytes app settings w.tree w.library = .ok bytes ∧ t.Reached (task.path out)
  | .done r => r = .ok (task.path out) ∧ t.Reached (task.path out) ∧ ∃ bytes,
      task.artifact.bytes app settings w.tree w.library = .ok bytes ∧
        t.at? (task.place out) = some (.file bytes)

variable {app settings out w task} {t u : Tree}

/-- **What a stage says stays true** in a tree that keeps the directories and the file. -/
theorem Stage.Sound.kept {stage : Stage} (h : stage.Sound app settings out w task t)
    (hdirs : t.DirsKept u) (hplace : u.at? (task.place out) = t.at? (task.place out)) :
    stage.Sound app settings out w task u := by
  have hreach : ∀ p : Path, t.Reached p → u.Reached p := fun p hp l hl => hdirs l (hp l hl)
  cases stage with
  | planned => exact h
  | descending text depth => exact h
  | ascending text depth => exact ⟨h.1, h.2.1, hreach _ h.2.2⟩
  | checking text depth fault => exact ⟨h.1, h.2.1, hreach _ h.2.2.1, hdirs _ h.2.2.2⟩
  | emptying text => exact ⟨h.1, hreach _ h.2⟩
  | filling bytes => exact ⟨h.1, hreach _ h.2⟩
  | done r =>
      obtain ⟨hr, hp, bytes, hbytes, hfile⟩ := h
      exact ⟨hr, hreach _ hp, bytes, hbytes, hplace.trans hfile⟩

/-! ## One step of one task -/

theorem folder_trail (hcan : t.CanWrite (task.path out)) :
    (task.folder out).trail = (task.path out).ancestors := Path.trail_parent hcan.names_ne_nil

/-- The directories of a file are on the way to it. -/
theorem place_folder_mem (hcan : t.CanWrite (task.path out)) {depth : Nat}
    (hdepth : depth ≤ (task.folder out).names.length) :
    ((task.folder out).upTo depth).place ∈ (task.path out).ancestors := by
  rw [← folder_trail hcan]
  exact Path.mem_trail.2 ⟨depth, hdepth, rfl⟩

theorem legal_folder (hcan : t.CanWrite (task.path out)) (depth : Nat) :
    ((task.folder out).upTo depth).IsLegal := by
  have hfolder : (task.folder out).IsLegal := by
    rw [Task.folder, Path.parent_eq_upTo]
    exact hcan.legal.upTo _
  exact hfolder.upTo depth

theorem passable_folder (hcan : t.CanWrite (task.path out)) {depth : Nat}
    (hdepth : depth ≤ (task.folder out).names.length) : t.Passable ((task.folder out).upTo depth) := by
  intro l hl
  obtain ⟨k, hk, rfl⟩ := Path.mem_ancestors.1 hl
  rw [Path.length_upTo hdepth] at hk
  rw [Path.upTo_upTo, Nat.min_eq_left (by omega)]
  exact hcan.passable _ (place_folder_mem hcan (by omega))

/-- Behind a directory that is there a task goes on inwards. -/
theorem onwards_sound (hcan : t.CanWrite (task.path out)) {text : Text} {depth : Nat}
    (hcontent : IsContent app settings w task text) (hdepth : depth ≤ (task.folder out).names.length)
    (hreach : t.Reached ((task.folder out).upTo depth))
    (hdir : t.at? ((task.folder out).upTo depth).place = some .dir) :
    (Stage.onwards (task.folder out) text depth).Sound app settings out w task t := by
  have htrail : ∀ l ∈ ((task.folder out).upTo depth).trail, t.at? l = some .dir := by
    intro l hl
    rw [Path.trail_eq, List.mem_append, List.mem_singleton] at hl
    rcases hl with hl | rfl
    · exact hreach l hl
    · exact hdir
  unfold Stage.onwards
  split
  · next hlt =>
      refine ⟨hcontent, hlt, ?_⟩
      intro l hl
      rw [Path.ancestors_upTo_succ hlt] at hl
      exact htrail l hl
  · next hlt =>
      refine ⟨hcontent, ?_⟩
      intro l hl
      rw [Path.upTo_of_le (by omega), folder_trail hcan] at htrail
      exact htrail l hl

/-- A directory tried behind its parents is made, or looked at. -/
theorem tried_sound (hcan : t.CanWrite (task.path out)) {l : Template.Library} {text : Text} {depth : Nat}
    (hcontent : IsContent app settings w task text) (hdepth : depth ≤ (task.folder out).names.length)
    (hreach : t.Reached ((task.folder out).upTo depth)) (missing : FileFault → Stage) :
    let r := tried ⟨t, l⟩ (task.folder out) text depth missing (t.makeDir ((task.folder out).upTo depth))
    Touches out task t r.1.tree ∧ r.1.library = l ∧ r.2.Sound app settings out w task r.1.tree := by
  have hlegal := legal_folder hcan depth
  have hmem := place_folder_mem hcan hdepth
  rcases hcan.passable _ hmem with hnone | hdir
  · obtain ⟨made, hmade, hview⟩ := Tree.makeDir_vacant hlegal hreach hnone
    have htouches := Touches.of_makeDir hmem hcan hview
    rw [hmade]
    refine ⟨htouches, rfl, ?_⟩
    refine onwards_sound ?_ hcontent hdepth (fun k hk => htouches.dirs k (hreach k hk)) ?_
    · exact hcan.of_view htouches.ancestors htouches.notDir
    · show made.at? _ = _
      rw [hview, withDirs_of_mem (by simp)]
  · rw [Tree.makeDir_present hlegal hreach hdir]
    exact ⟨Touches.refl hcan.notDir, rfl, hcontent, hdepth, hreach, hdir⟩

/-- **One step of one task**: it touches only its own file and the ways to it, leaves the templates as they
are, and comes to a stage that is sound. -/
theorem advance_sound (hready : Ready app settings out w) (htask : task ∈ plan app)
    (hcan : t.CanWrite (task.path out)) {l : Template.Library} (hsteady : Steady w.tree w.library t l)
    {stage : Stage} (hsound : stage.Sound app settings out w task t) :
    let r := advance app settings out task ⟨t, l⟩ stage
    Touches out task t r.1.tree ∧ Steady w.tree w.library r.1.tree r.1.library ∧
      r.2.Sound app settings out w task r.1.tree := by
  -- All steps but the first one leave the library alone.
  have hgrow : ∀ r : Shared × Stage,
      Touches out task t r.1.tree ∧ r.1.library = l ∧ r.2.Sound app settings out w task r.1.tree →
        Touches out task t r.1.tree ∧ Steady w.tree w.library r.1.tree r.1.library ∧
          r.2.Sound app settings out w task r.1.tree := by
    rintro r ⟨htouches, hlibrary, hnext⟩
    refine ⟨htouches, ?_, hnext⟩
    rw [hlibrary]
    exact hsteady.grow (htouches.grows htask hcan)
  have hrefl : Touches out task t t := Touches.refl hcan.notDir
  intro r
  cases stage with
  | planned =>
      obtain ⟨bytes, hbytes⟩ := hready.bytes task htask
      obtain ⟨text, htext, hcode⟩ := Artifact.bytes_eq_ok_iff.1 (hsteady.bytes hbytes)
      have hr : r = (⟨t, (task.artifact.render app settings t l).2⟩,
          .descending text (task.folder out).names.length) := by
        show advance app settings out task ⟨t, l⟩ .planned = _
        simp only [advance, htext]
      rw [hr]
      exact ⟨hrefl, hsteady.render task.artifact, ⟨bytes, hcode, hbytes⟩, Nat.le_refl _⟩
  | descending text depth =>
      obtain ⟨hcontent, hdepth⟩ := hsound
      by_cases hreach : t.Reached ((task.folder out).upTo depth)
      · exact hgrow _ (tried_sound hcan hcontent hdepth hreach _)
      · have hmissing := Tree.makeDir_missing (legal_folder hcan depth) (passable_folder hcan hdepth) hreach
        have hr : r = (⟨t, l⟩, .outwards (task.folder out) text
            (.system .missing ((task.folder out).upTo depth)) depth) := by
          show advance app settings out task ⟨t, l⟩ (.descending text depth) = _
          rw [advance, hmissing]
          rfl
        rw [hr]
        refine hgrow _ ⟨hrefl, rfl, ?_⟩
        cases depth with
        | zero =>
            -- Nothing is missing in front of the innermost parent, which has no names.
            refine absurd ?_ hreach
            intro k hk
            simp [Path.ancestors, Path.upTo] at hk
        | succ depth => exact ⟨hcontent, by omega⟩
  | ascending text depth =>
      obtain ⟨hcontent, hdepth, hreach⟩ := hsound
      exact hgrow _ (tried_sound hcan hcontent hdepth hreach _)
  | checking text depth fault =>
      obtain ⟨hcontent, hdepth, hreach, hdir⟩ := hsound
      have hthere := Tree.isDir_of_reached (legal_folder hcan depth) hreach hdir
      have hr : r = (⟨t, l⟩, .onwards (task.folder out) text depth) := by
        show advance app settings out task ⟨t, l⟩ (.checking text depth fault) = _
        rw [advance, if_pos hthere]
      rw [hr]
      exact hgrow _ ⟨hrefl, rfl, onwards_sound hcan hcontent hdepth hreach hdir⟩
  | emptying text =>
      obtain ⟨⟨bytes, hcode, hbytes⟩, hreach⟩ := hsound
      obtain ⟨emptied, hemptied, hview⟩ := Tree.writeBytes_spec hcan.legal hreach hcan.notDir []
      have htouches := Touches.of_write hcan hview
      have hr : r = (⟨emptied, l⟩, .filling bytes) := by
        show advance app settings out task ⟨t, l⟩ (.emptying text) = _
        simp only [advance, hemptied, hcode]
      rw [hr]
      exact hgrow _ ⟨htouches, rfl, hbytes, fun k hk => htouches.dirs k (hreach k hk)⟩
  | filling bytes =>
      obtain ⟨hbytes, hreach⟩ := hsound
      obtain ⟨filled, hfilled, hview⟩ := Tree.writeBytes_spec hcan.legal hreach hcan.notDir bytes
      have htouches := Touches.of_write hcan hview
      have hr : r = (⟨filled, l⟩, .done (.ok (task.path out))) := by
        show advance app settings out task ⟨t, l⟩ (.filling bytes) = _
        simp only [advance, hfilled]
      rw [hr]
      refine hgrow _ ⟨htouches, rfl, rfl, fun k hk => htouches.dirs k (hreach k hk), bytes, hbytes, ?_⟩
      show filled.at? (task.place out) = _
      rw [hview]
      exact withFile_self _ _ _
  | done r => exact hgrow _ ⟨hrefl, rfl, hsound⟩

end Stage

/-! ## Several tasks -/

namespace Pool

variable {app : App} {settings : Settings} {out : Path} {w : Workshop} {limit : Option Nat}
  {pool next : Pool}

/-- A pool of the planned tasks in which every stage says the truth. -/
structure Sound (app : App) (settings : Settings) (out : Path) (w : Workshop) (pool : Pool) : Prop where
  tasks : pool.jobs.map Job.task = plan app
  between : Between app out w pool.shared.tree
  steady : Steady w.tree w.library pool.shared.tree pool.shared.library
  jobs : ∀ job ∈ pool.jobs, job.stage.Sound app settings out w job.task pool.shared.tree

theorem Sound.start (hready : Ready app settings out w) :
    Sound app settings out w (start w (plan app)) where
  tasks := map_task_start w (plan app)
  between := Between.refl hready
  steady := Steady.refl w.tree w.library
  jobs job hjob := by
    obtain ⟨task, _, rfl⟩ := List.mem_map.1 hjob
    exact trivial

theorem Sound.planned (h : Sound app settings out w pool) {job : Job} (hjob : job ∈ pool.jobs) :
    job.task ∈ plan app := by
  rw [← h.tasks]
  exact List.mem_map_of_mem hjob

/-- **One step of any task** leaves every stage true. -/
theorem Sound.step (h : Sound app settings out w pool) (hready : Ready app settings out w)
    (hdistinct : ((plan app).map Task.fileName).Nodup) (hstep : Step app settings out limit pool next) :
    Sound app settings out w next := by
  cases hstep with
  | job s before after job hopen hroom =>
      have hmem : job ∈ before ++ job :: after := by simp
      have htask := h.planned hmem
      have hcan := h.between.canWrite hready htask
      obtain ⟨htouches, hsteady, hsound⟩ := advance_sound hready htask hcan h.steady (h.jobs job hmem)
      -- Only here the names must differ: a step may empty or fill the file of its own task.
      have hothers := fileName_ne h.tasks hdistinct
      refine ⟨?_, h.between.touches hready htask htouches, hsteady, ?_⟩
      · rw [← h.tasks]
        simp
      · intro other hother
        rcases mem_middle.1 hother with rfl | hrest
        · exact hsound
        · have hin : other ∈ before ++ job :: after := mem_middle.2 (Or.inr hrest)
          refine (h.jobs other hin).kept htouches.dirs ?_
          exact htouches.place_eq hready htask (h.planned hin) (hothers other hrest)

/-- **Steps of the tasks in any order** leave every stage true. -/
theorem Sound.reaches (h : Sound app settings out w pool) (hready : Ready app settings out w)
    (hdistinct : ((plan app).map Task.fileName).Nodup)
    (hreach : Reaches app settings out limit pool next) : Sound app settings out w next := by
  induction hreach with
  | refl => exact h
  | tail _ hstep ih => exact ih.step hready hdistinct hstep

/-- A job that has ended has written its file. -/
theorem Sound.done (h : Sound app settings out w pool) (hfinished : pool.finished = true) {job : Job}
    (hjob : job ∈ pool.jobs) :
    job.outcome? = some (job.task.fileName, .ok (job.task.path out)) ∧
      pool.shared.tree.Reached (job.task.path out) ∧
      ∃ bytes, job.task.artifact.bytes app settings w.tree w.library = .ok bytes ∧
        pool.shared.tree.at? (job.task.place out) = some (.file bytes) := by
  have hended := List.all_eq_true.1 hfinished job hjob
  have hsound := h.jobs job hjob
  obtain ⟨task, stage⟩ := job
  cases stage with
  | done r =>
      obtain ⟨hr, hreach, hbytes⟩ := hsound
      refine ⟨?_, hreach, hbytes⟩
      show some (task.fileName, r) = _
      rw [hr]
  | _ => cases hended

/-- **When all tasks have ended**, the tree is what they leave behind one after another. -/
theorem Sound.written (h : Sound app settings out w pool) (hfinished : pool.finished = true) :
    Written app settings out w (plan app) pool.shared.tree := by
  have hjob : ∀ a ∈ plan app, ∃ job ∈ pool.jobs, job.task = a := by
    intro a ha
    rw [← h.tasks] at ha
    exact List.mem_map.1 ha
  refine ⟨fun a ha => ha, ?_, ?_, h.between.rest⟩
  · intro name last hlast
    obtain ⟨job, hmem, rfl⟩ := hjob last (mem_of_lastNamed hlast).1
    exact (h.done hfinished hmem).2.2
  · intro a ha l hl
    obtain ⟨job, hmem, rfl⟩ := hjob a ha
    exact (h.done hfinished hmem).2.1 l hl

/-- When all tasks have ended, all of them ended well. -/
theorem Sound.outcomes (h : Sound app settings out w pool) (hfinished : pool.finished = true) :
    pool.outcomes = (plan app).map fun task => (task.fileName, .ok (task.path out)) := by
  rw [← h.tasks, List.map_map]
  exact List.filterMap_eq_map_iff_forall_eq_some.2 fun job hjob => (h.done hfinished hjob).1

end Pool

/-! ## A whole conversion -/

/-- **The result does not depend on the order of steps.** Let the planned names be distinct, and the planned
files such that they can be rendered and written. However many workers there are, at least one, and in
whatever order the steps of the tasks come: while a task has not ended there is a step, no run goes on for
ever, and at its end the tree is what `convert` leaves; and in whatever order the finished tasks are handed
back, their paths are those that `convert` returns. -/
theorem convert_of_schedule {app : App} {settings : Settings} {out : Path} {given : Value} {w : Workshop}
    (hworkers : workersFault (workers settings given) = none)
    (hdistinct : ((plan app).map Task.fileName).Nodup) (hready : Ready app settings out w)
    {limit : Option Nat} (hlimit : limit ≠ some 0) :
    (¬ ∃ run : Nat → Pool, run 0 = Pool.start w (plan app) ∧
        ∀ n, Pool.Step app settings out limit (run n) (run (n + 1))) ∧
      ∀ pool, Pool.Reaches app settings out limit (Pool.start w (plan app)) pool →
        (pool.finished = false → ∃ next, Pool.Step app settings out limit pool next) ∧
          (pool.finished = true →
            pool.shared.tree.at? = (convert app settings out given w).2.tree.at? ∧
              ∀ handed : List Outcome, handed.Perm pool.outcomes →
                ∃ written, collect [] handed = .ok written ∧
                  (convert app settings out given w).1 =
                    .ok ((plan app).filterMap fun task => written.lookup task.fileName)) := by
  refine ⟨?_, ?_⟩
  · rintro ⟨run, _, hrun⟩
    exact Pool.no_endless_run ⟨run, hrun⟩
  · intro pool hreach
    have hsound := (Pool.Sound.start hready).reaches hready hdistinct hreach
    refine ⟨Pool.progress hlimit, ?_⟩
    intro hfinished
    obtain ⟨hpaths, hwritten, _⟩ := convert_written hworkers hready
    refine ⟨?_, ?_⟩
    · exact hwritten.view_eq (hsound.written hfinished) (Steady.refl w.tree w.library) fun _ _ => rfl
    · intro handed hperm
      rw [hsound.outcomes hfinished] at hperm
      have hall : ∀ o ∈ handed, o.2 = .ok (out / o.1) := by
        intro o ho
        obtain ⟨task, _, rfl⟩ := List.mem_map.1 (hperm.mem_iff.1 ho)
        rfl
      have hnames : ∀ task ∈ plan app, task.fileName ∈ handed.map (·.1) := by
        intro task htask
        exact List.mem_map.2 ⟨_, hperm.mem_iff.2 (List.mem_map_of_mem htask), rfl⟩
      obtain ⟨written, hcollect, hlookups⟩ := paths_collect hall hnames
      refine ⟨written, hcollect, ?_⟩
      rw [hpaths, hlookups]

/-- Two steps with files of their own. -/
def pair : App where
  title := "Pair"
  description := []
  triggers := [("a", ⟨"a", [], []⟩), ("b", ⟨"b", [], []⟩)]
  searches := []
  actions := []

theorem pair_ready : Ready pair {} (.ofText "out") usedWorkshop where
  canWrite := by decide +kernel
  bytes := exists_bytes (by decide +kernel)

/-- Two workers on the files of two steps, in a directory that was used before. -/
theorem convert_of_schedule_pair :
    workersFault (workers {} (.int 1)) = none ∧ ((plan pair).map Task.fileName).Nodup ∧
      Ready pair {} (.ofText "out") usedWorkshop ∧ (some 2 : Option Nat) ≠ some 0 ∧
      ∃ pool, Pool.Reaches pair {} (.ofText "out") (some 2) (Pool.start usedWorkshop (plan pair)) pool ∧
        pool.shared.tree.at? =
          (convert pair {} (.ofText "out") (.int 1) usedWorkshop).2.tree.at? := by
  have hworkers : workersFault (workers {} (.int 1)) = none := by decide
  have hdistinct : ((plan pair).map Task.fileName).Nodup := by decide +kernel
  have hlimit : (some 2 : Option Nat) ≠ some 0 := by decide
  obtain ⟨pool, hreach, hfinished⟩ := Pool.exists_finished hlimit (Pool.start usedWorkshop (plan pair))
  have hspec := (convert_of_schedule hworkers hdistinct pair_ready hlimit).2 pool hreach
  exact ⟨hworkers, hdistinct, pair_ready, hlimit, pool, hreach, (hspec.2 hfinished).1⟩

end StepForge.Conversion
