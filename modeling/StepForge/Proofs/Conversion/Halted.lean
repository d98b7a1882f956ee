import StepForge.Proofs.Conversion.Collecting
import StepForge.Proofs.Conversion.Pool
import StepForge.Proofs.Conversion.Rendering

/-!
# `StepForge.Proofs.Conversion.Halted` — what tasks leave behind wherever they halt

Nothing is asked of the tree here: files can stand in the way, templates can be missing, texts can have no
bytes. A file is emptied before its text is encoded. So of all the ways in which a task can fail, only one
changes its file: a text that cannot be encoded leaves it empty. In all other cases a planned place holds
what it held before, or the bytes of a task of its name.

## Contents
- `Untouched`, `Spares`, `advance_spares` — what a step of a task can do to the places of the others.
- `Complete`, `Emptied` — the file of a task, with all its bytes or with none.
- `Stage.Shows` — what a stage says about the text of its task.
- `Stage.Shows.advance`, `Stage.Shows.completes` — one step of one task.
- `Pool.Shown` — tasks side by side.
- `Leads.completes`, `runTask_completes` — a task that runs alone.
- `convert_of_workersFault`, `convert_eq` — a whole conversion, one task after another.
- `torn`, `torn_fails` — a conversion that fails at a text.
-/

namespace StepForge.Conversion

/-! ## Places of the others -/

/-- A place holds what it held before. Only where nothing stood, a directory that leads to the output directory
can have been made, if that one is left again through two dots. -/
def Untouched (out : Path) (l : Location) (before now : Option Entry) : Prop :=
  now = before ∨ before = none ∧ now = some .dir ∧ l ∈ out.trail

theorem Untouched.refl (out : Path) (l : Location) (before : Option Entry) : Untouched out l before before :=
  Or.inl rfl

theorem Untouched.trans {out : Path} {l : Location} {before between now : Option Entry}
    (h : Untouched out l before between) (k : Untouched out l between now) : Untouched out l before now := by
  rcases k with rfl | ⟨hnone, hdir, htrail⟩
  · exact h
  · rcases h with rfl | ⟨_, hbetween, _⟩
    · exact Or.inr ⟨hnone, hdir, htrail⟩
    · rw [hnone] at hbetween
      cases hbetween

/-- A file that was there is there. -/
theorem Untouched.file {out : Path} {l : Location} {now : Option Entry} {bytes : List UInt8}
    (h : Untouched out l (some (.file bytes)) now) : now = some (.file bytes) := by
  rcases h with h | ⟨h, _⟩
  · exact h
  · cases h

/-- What a step of a task of a name can do: the directories and the files elsewhere stay, the templates stay
what they are, and the planned places of other names are untouched. -/
structure Spares (app : App) (out : Path) (name : Text) (s u : Shared) : Prop where
  grows : s.tree.Grows (places app out) u.tree
  steady : Steady s.tree s.library u.tree u.library
  others : ∀ b ∈ plan app, b.fileName ≠ name →
    Untouched out (b.place out) (s.tree.at? (b.place out)) (u.tree.at? (b.place out))

section Steps

variable {app : App} {settings : Settings} {out : Path} {task : Task} {name : Text} {s u v : Shared}

theorem Spares.refl (app : App) (out : Path) (name : Text) (s : Shared) : Spares app out name s s where
  grows := ⟨Tree.DirsKept.refl _, fun _ _ _ h => h⟩
  steady := Steady.refl _ _
  others _ _ _ := Untouched.refl _ _ _

theorem Spares.trans (h : Spares app out name s u) (k : Spares app out name u v) :
    Spares app out name s v where
  grows := ⟨fun l hl => k.grows.dirs l (h.grows.dirs l hl),
    fun l hl bytes hfile => k.grows.files l hl bytes (h.grows.files l hl bytes hfile)⟩
  steady := h.steady.trans k.steady
  others b hb hne := (h.others b hb hne).trans (k.others b hb hne)

theorem names_ne_nil (htask : task ∈ plan app) : (task.path out).names ≠ [] := by
  unfold Task.path
  rcases mem_plan.1 htask with ⟨c, key, s, _, rfl⟩ | rfl | rfl
  · simp [div_stepFileName, Path.below]
  · simp [div_index, Path.below]
  · simp [div_manifest, Path.below]

/-- Every directory that a task tries is on the way to its file. -/
theorem place_folder_mem_ancestors (htask : task ∈ plan app) (out : Path) (depth : Nat) :
    ((task.folder out).upTo depth).place ∈ (task.path out).ancestors := by
  rw [← Path.trail_parent (names_ne_nil htask)]
  by_cases hdepth : depth ≤ (task.folder out).names.length
  · exact Path.mem_trail.2 ⟨depth, hdepth, rfl⟩
  · rw [Path.upTo_of_le (by omega)]
    exact Path.place_mem_trail _

/-- **A directory that is made** leaves all planned places untouched. -/
theorem untouched_of_makeDir (htask : task ∈ plan app) {depth : Nat} {t : Tree}
    (h : s.tree.makeDir ((task.folder out).upTo depth) = .ok t) {b : Task} (hb : b ∈ plan app) :
    Untouched out (b.place out) (s.tree.at? (b.place out)) (t.at? (b.place out)) := by
  obtain ⟨hnone, hview⟩ := Tree.at?_of_makeDir h
  by_cases hplace : b.place out = ((task.folder out).upTo depth).place
  · have hanc := place_folder_mem_ancestors htask out depth
    rw [← hplace] at hanc hnone
    have htrail : b.place out ∈ out.trail := by
      rcases mem_ancestors_planned htask hanc with htrail | ⟨c, _, _, _, hdir⟩
      · exact htrail
      · exact absurd hdir (place_ne_stepDirectory hb c)
    refine Or.inr ⟨hnone, ?_, htrail⟩
    rw [hview, hplace, withDirs_of_mem (by simp)]
  · refine Or.inl ?_
    rw [hview, withDirs_of_notMem (by simpa using hplace)]

theorem spares_of_makeDir (htask : task ∈ plan app) {depth : Nat} {t : Tree}
    (h : s.tree.makeDir ((task.folder out).upTo depth) = .ok t) : Spares app out name s { s with tree := t } := by
  obtain ⟨hnone, hview⟩ := Tree.at?_of_makeDir h
  have hgrows : s.tree.Grows (places app out) t := by
    refine ⟨Tree.DirsKept.of_withDirs hview, fun l _ bytes hfile => ?_⟩
    have hne : l ∉ [((task.folder out).upTo depth).place] := by
      intro hl
      rw [List.mem_singleton.1 hl, hnone] at hfile
      cases hfile
    rw [hview, withDirs_of_notMem hne]
    exact hfile
  exact ⟨hgrows, (Steady.refl _ _).grow hgrows, fun b hb _ => untouched_of_makeDir htask h hb⟩

/-- **A file that is written** touches no place of another name. -/
theorem spares_of_writeBytes (htask : task ∈ plan app) {bytes : List UInt8} {t : Tree}
    (h : s.tree.writeBytes (task.path out) bytes = .ok t) : Spares app out task.fileName s { s with tree := t } := by
  obtain ⟨_, _, hdir, hview⟩ := Tree.at?_of_writeBytes h
  have hgrows : s.tree.Grows (places app out) t := by
    refine ⟨Tree.DirsKept.of_withFile hview hdir, fun l hl old hfile => ?_⟩
    have hne : l ≠ (task.path out).place := by
      rintro rfl
      exact hl (mem_places htask)
    rw [hview, withFile_of_ne hne]
    exact hfile
  refine ⟨hgrows, (Steady.refl _ _).grow hgrows, fun b hb hname => Or.inl ?_⟩
  have hne : b.place out ≠ (task.path out).place := fun hplace => hname ((place_eq_iff hb htask).1 hplace)
  rw [hview, withFile_of_ne hne]

/-! ## The file of a task -/

/-- A text that the file of a task shows now. -/
def Renders (app : App) (settings : Settings) (task : Task) (s : Shared) (text : Text) : Prop :=
  (task.artifact.render app settings s.tree s.library).1 = .ok text

theorem Renders.steady {text : Text} (h : Renders app settings task s text)
    (hsteady : Steady s.tree s.library u.tree u.library) : Renders app settings task u text := hsteady.text h

/-- Rendering fails in many ways, but encodes nothing. -/
theorem render_ne_encoding (a : Artifact) (t : Tree) (l : Template.Library) (fault : Utf8.EncodeFault) :
    (a.render app settings t l).1 ≠ .error (.encoding fault) := by
  unfold Artifact.render fillWith Engine.fillWith
  cases a.bindings app settings with
  | error f => simp
  | ok values =>
      show (nodeEngine.fill t l a.template values).1 ≠ _
      rw [Engine.fill_eq]
      cases hload : Template.Store.load l nodeEngine.compile t a.template with
      | error f =>
          rw [Engine.load_of_error hload]
          cases f <;> simp [Except.bind, loadFault]
      | ok found =>
          rw [Engine.load_of_ok hload]
          show (Template.render found.1 values).mapError Fault.rendering ≠ _
          cases Template.render found.1 values <;> simp [Except.mapError]

variable (app settings out task)

/-- The file of a task holds the bytes of its text. -/
def Complete (s : Shared) : Prop :=
  ∃ text bytes, Renders app settings task s text ∧ Utf8.encode text = .ok bytes ∧
    s.tree.at? (task.place out) = some (.file bytes)

/-- The file of a task is empty, since its text cannot be encoded. -/
def Emptied (s : Shared) (fault : Utf8.EncodeFault) : Prop :=
  ∃ text, Renders app settings task s text ∧ Utf8.encode text = .error fault ∧
    s.tree.at? (task.place out) = some (.file [])

/-- **What a stage says about the text of its task.** -/
def Stage.Shows (s : Shared) : Stage → Prop
  | .descending text _ | .ascending text _ | .checking text _ _ | .emptying text => Renders app settings task s text
  | .filling bytes => ∃ text, Renders app settings task s text ∧ Utf8.encode text = .ok bytes
  | _ => True

variable {app settings out task}

/-! ## One step of one task -/

/-- **One step of one task** spares the files of the others, whatever the tree. -/
theorem advance_spares (htask : task ∈ plan app) (settings : Settings) (out : Path) (s : Shared) (stage : Stage) :
    Spares app out task.fileName s (advance app settings out task s stage).1 := by
  have htried : ∀ text depth missing, Spares app out task.fileName s
      (tried s (task.folder out) text depth missing (s.tree.makeDir ((task.folder out).upTo depth))).1 := by
    intro text depth missing
    cases hmade : s.tree.makeDir ((task.folder out).upTo depth) with
    | ok t => exact spares_of_makeDir htask hmade
    | error fault =>
        cases fault with
        | nullCharacter => exact Spares.refl _ _ _ _
        | system cause p => cases cause <;> exact Spares.refl _ _ _ _
  cases stage with
  | planned =>
      exact ⟨(Spares.refl app out task.fileName s).grows, (Steady.refl _ _).render task.artifact,
        fun _ _ _ => Untouched.refl _ _ _⟩
  | descending text depth => exact htried text depth _
  | ascending text depth => exact htried text depth _
  | checking text depth fault => exact Spares.refl _ _ _ _
  | emptying text =>
      rw [advance]
      cases hwrite : s.tree.writeBytes (task.path out) [] with
      | error fault => exact Spares.refl _ _ _ _
      | ok t => exact spares_of_writeBytes htask hwrite
  | filling bytes =>
      rw [advance]
      cases hwrite : s.tree.writeBytes (task.path out) bytes with
      | error fault => exact Spares.refl _ _ _ _
      | ok t => exact spares_of_writeBytes htask hwrite
  | done r => exact Spares.refl _ _ _ _

/-- What a stage says about its text stays true while the templates stay what they are. -/
theorem Stage.Shows.steady {stage : Stage} (h : stage.Shows app settings task s)
    (hsteady : Steady s.tree s.library u.tree u.library) : stage.Shows app settings task u := by
  cases stage with
  | planned => exact trivial
  | descending text depth => exact Renders.steady h hsteady
  | ascending text depth => exact Renders.steady h hsteady
  | checking text depth fault => exact Renders.steady h hsteady
  | emptying text => exact Renders.steady h hsteady
  | filling bytes =>
      obtain ⟨text, htext, hcode⟩ := h
      exact ⟨text, htext.steady hsteady, hcode⟩
  | done r => exact trivial

/-- Behind a directory that is there, a task goes on with its text. -/
theorem Stage.Shows.onwards {dir : Path} {text : Text} {depth : Nat} (h : Renders app settings task s text) :
    (Stage.onwards dir text depth).Shows app settings task s := by
  unfold Stage.onwards
  split
  · exact h
  · exact h

/-- Behind a directory that was tried, a task goes on with its text, or has failed. -/
theorem Stage.Shows.tried {dir : Path} {text : Text} {depth : Nat} (missing : FileFault → Stage)
    (h : Renders app settings task u text) (hmissing : ∀ fault, (missing fault).Shows app settings task u)
    (r : Except FileFault Tree) :
    (Conversion.tried s dir text depth missing r).2.Shows app settings task u := by
  cases r with
  | ok t => exact Stage.Shows.onwards h
  | error fault =>
      cases fault with
      | nullCharacter => exact trivial
      | system cause p =>
          cases cause with
          | missing => exact hmissing _
          | _ => exact h

/-- **A task goes on with the text that it rendered.** -/
theorem Stage.Shows.advance (htask : task ∈ plan app) {stage : Stage} (h : stage.Shows app settings task s) :
    (Conversion.advance app settings out task s stage).2.Shows app settings task
      (Conversion.advance app settings out task s stage).1 := by
  have hsteady := (advance_spares htask settings out s stage).steady
  cases stage with
  | planned =>
      rw [Conversion.advance] at hsteady ⊢
      cases hrender : task.artifact.render app settings s.tree s.library with
      | mk r library =>
          rw [hrender] at hsteady
          cases r with
          | error f => exact trivial
          | ok text =>
              have htext : Renders app settings task s text := by rw [Renders, hrender]
              exact htext.steady hsteady
  | descending text depth =>
      have htext := Renders.steady h hsteady
      refine Stage.Shows.tried _ htext (fun fault => ?_) _
      cases depth with
      | zero => exact trivial
      | succ depth => exact htext
  | ascending text depth =>
      exact Stage.Shows.tried (.failed (task.folder out)) (Renders.steady h hsteady) (fun _ => trivial) _
  | checking text depth fault =>
      show Stage.Shows app settings task s (if _ then _ else _)
      split
      · exact Stage.Shows.onwards h
      · exact trivial
  | emptying text =>
      have htext := Renders.steady h hsteady
      rw [Conversion.advance] at htext ⊢
      cases hwrite : s.tree.writeBytes (task.path out) [] with
      | error fault => exact trivial
      | ok t =>
          rw [hwrite] at htext
          cases hcode : Utf8.encode text with
          | error fault => exact trivial
          | ok bytes => exact ⟨text, htext, hcode⟩
  | filling bytes =>
      rw [Conversion.advance]
      cases s.tree.writeBytes (task.path out) bytes with
      | error fault => exact trivial
      | ok t => exact trivial
  | done r => exact trivial

/-- A file that is spared stays complete. -/
theorem Complete.spared (h : Complete app settings out task s)
    (hsteady : Steady s.tree s.library u.tree u.library)
    (hplace : Untouched out (task.place out) (s.tree.at? (task.place out)) (u.tree.at? (task.place out))) :
    Complete app settings out task u := by
  obtain ⟨text, bytes, htext, hcode, hfile⟩ := h
  rw [hfile] at hplace
  exact ⟨text, bytes, htext.steady hsteady, hcode, hplace.file⟩

/-- A file into which the bytes of its text are put is complete. -/
theorem complete_of_writeBytes (htask : task ∈ plan app) {bytes : List UInt8} {t : Tree}
    (hshows : (Stage.filling bytes).Shows app settings task s)
    (hwrite : s.tree.writeBytes (task.path out) bytes = .ok t) :
    Complete app settings out task { s with tree := t } := by
  obtain ⟨text, htext, hcode⟩ := hshows
  obtain ⟨_, _, _, hview⟩ := Tree.at?_of_writeBytes hwrite
  refine ⟨text, bytes, htext.steady (spares_of_writeBytes htask hwrite).steady, hcode, ?_⟩
  show t.at? (task.place out) = _
  rw [hview]
  exact withFile_self _ _ _

/-! ## Tasks that end well -/

theorem onwards_ne_ok (dir : Path) (text : Text) (depth : Nat) (p : Path) :
    Stage.onwards dir text depth ≠ .done (.ok p) := by
  unfold Stage.onwards
  split <;> simp

theorem tried_ne_ok {p dir : Path} {text : Text} {depth : Nat} (missing : FileFault → Stage)
    (hmissing : ∀ fault, missing fault ≠ .done (.ok p)) (r : Except FileFault Tree) :
    (tried s dir text depth missing r).2 ≠ .done (.ok p) := by
  cases r with
  | ok t => exact onwards_ne_ok dir text depth p
  | error fault =>
      cases fault with
      | nullCharacter => simp [tried, Stage.failed]
      | system cause q =>
          cases cause with
          | missing => exact hmissing _
          | _ => simp [tried]

/-- **A task that ends well has just filled its file**, with the bytes of its text. -/
theorem Stage.Shows.completes {stage : Stage} {p : Path} (htask : task ∈ plan app)
    (hshows : stage.Shows app settings task s) (hopen : stage.isDone = false)
    (h : (Conversion.advance app settings out task s stage).2 = .done (.ok p)) :
    p = task.path out ∧ Complete app settings out task (Conversion.advance app settings out task s stage).1 := by
  cases stage with
  | planned =>
      rw [Conversion.advance] at h
      cases hrender : task.artifact.render app settings s.tree s.library with
      | mk r library =>
          rw [hrender] at h
          cases r <;> cases h
  | descending text depth =>
      refine absurd h (tried_ne_ok _ (fun fault => ?_) _)
      cases depth <;> simp [Stage.outwards, Stage.failed]
  | ascending text depth => exact absurd h (tried_ne_ok (.failed (task.folder out)) (fun _ => by simp [Stage.failed]) _)
  | checking text depth fault =>
      rw [Conversion.advance] at h
      dsimp only at h
      split at h
      · exact absurd h (onwards_ne_ok _ _ _ _)
      · cases h
  | emptying text =>
      rw [Conversion.advance] at h
      cases hwrite : s.tree.writeBytes (task.path out) [] with
      | error fault =>
          rw [hwrite] at h
          cases h
      | ok t =>
          rw [hwrite] at h
          cases hcode : Utf8.encode text with
          | error fault =>
              simp only [hcode] at h
              cases h
          | ok bytes =>
              simp only [hcode] at h
              cases h
  | filling bytes =>
      rw [Conversion.advance] at h ⊢
      cases hwrite : s.tree.writeBytes (task.path out) bytes with
      | error fault =>
          rw [hwrite] at h
          cases h
      | ok t =>
          rw [hwrite] at h
          cases h
          exact ⟨rfl, complete_of_writeBytes htask hshows hwrite⟩
  | done r => cases hopen

end Steps

/-! ## Tasks side by side -/

namespace Pool

variable {app : App} {settings : Settings} {out : Path} {w : Workshop} {limit : Option Nat}
  {pool next : Pool}

/-- A pool of the planned tasks in which every stage says the truth about its text. -/
structure Shown (app : App) (settings : Settings) (w : Workshop) (pool : Pool) : Prop where
  tasks : pool.jobs.map Job.task = plan app
  steady : Steady w.tree w.library pool.shared.tree pool.shared.library
  shows : ∀ job ∈ pool.jobs, job.stage.Shows app settings job.task pool.shared

theorem Shown.planned (h : Shown app settings w pool) {job : Job} (hjob : job ∈ pool.jobs) :
    job.task ∈ plan app := by
  rw [← h.tasks]
  exact List.mem_map_of_mem hjob

theorem Shown.start (app : App) (settings : Settings) (w : Workshop) :
    Shown app settings w (start w (plan app)) where
  tasks := map_task_start w (plan app)
  steady := Steady.refl _ _
  shows job hjob := by
    obtain ⟨task, _, rfl⟩ := List.mem_map.1 hjob
    exact trivial

/-- One job of a pool in another stage, and what all share changed so that the templates stay. -/
theorem Shown.replace {s u : Shared} {before after : List Job} {job : Job} {stage : Stage}
    (h : Shown app settings w ⟨s, before ++ job :: after⟩)
    (hsteady : Steady s.tree s.library u.tree u.library) (hshows : stage.Shows app settings job.task u) :
    Shown app settings w ⟨u, before ++ ⟨job.task, stage⟩ :: after⟩ := by
  refine ⟨by rw [← h.tasks]; simp, h.steady.trans hsteady, ?_⟩
  intro other hother
  rcases mem_middle.1 hother with rfl | hrest
  · exact hshows
  · exact (h.shows other (mem_middle.2 (Or.inr hrest))).steady hsteady

/-- **One step of any task** leaves every stage true, as far as texts are concerned. -/
theorem Shown.step (h : Shown app settings w pool) (hstep : Step app settings out limit pool next) :
    Shown app settings w next := by
  cases hstep with
  | job s before after job hopen hroom =>
      have hmem : job ∈ before ++ job :: after := by simp
      have htask := h.planned hmem
      exact h.replace (advance_spares htask settings out s job.stage).steady ((h.shows job hmem).advance htask)

end Pool

/-! ## Tasks one after another -/

/-- The tree and the library of a workshop. -/
def Workshop.shared (w : Workshop) : Shared := ⟨w.tree, w.library⟩

@[simp] theorem Workshop.shared_tree (w : Workshop) : w.shared.tree = w.tree := rfl

@[simp] theorem Workshop.shared_library (w : Workshop) : w.shared.library = w.library := rfl

section Run

variable {app : App} {settings : Settings} {out : Path} {task : Task} {tasks : List Task}

/-- A task that runs alone spares the files of the others, and if it ends well its file is complete. -/
theorem Leads.completes (htask : task ∈ plan app) {a b : Shared × Stage} (hlead : Leads app settings out task a b)
    (hshows : a.2.Shows app settings task a.1) (hopen : a.2.isDone = false) :
    Spares app out task.fileName a.1 b.1 ∧ b.2.Shows app settings task b.1 ∧
      ∀ p, b.2 = .done (.ok p) → Complete app settings out task b.1 := by
  induction hlead with
  | refl =>
      refine ⟨Spares.refl _ _ _ _, hshows, fun p hp => ?_⟩
      rw [hp] at hopen
      cases hopen
  | @tail c d _ hstep ih =>
      obtain ⟨hspares, hshows, hcomplete⟩ := ih
      rw [← hstep]
      refine ⟨hspares.trans (advance_spares htask settings out c.1 c.2), hshows.advance htask, ?_⟩
      cases hdone : c.2.isDone with
      | false => exact fun p hp => (hshows.completes htask hdone hp).2
      | true =>
          rw [advance_of_done _ _ _ _ hdone]
          exact hcomplete

/-- **One task**: it spares the files of the others, and if it ends well its own is complete. -/
theorem runTask_completes (htask : task ∈ plan app) (settings : Settings) (out : Path) (v : Workshop) :
    let r := runTask app settings out task v
    Spares app out task.fileName v.shared r.2.shared ∧
      ∀ p, r.1 = .ok p → Complete app settings out task r.2.shared := by
  obtain ⟨hspares, _, hcomplete⟩ := (runTask_leads v).completes htask trivial rfl
  exact ⟨hspares, fun p hp => hcomplete p (congrArg (fun r => Stage.done r) hp)⟩

end Run

/-! ## A whole conversion -/

section Convert

variable {app : App} {settings : Settings} {out : Path} {given : Value} {w : Workshop}

/-- Without a possible number of workers nothing happens. -/
theorem convert_of_workersFault {failure : Fault} (h : workersFault (workers settings given) = some failure)
    (app : App) (out : Path) (w : Workshop) :
    (convert app settings out given w).1 = .error failure ∧ (convert app settings out given w).2.shared = w.shared := by
  unfold convert
  refine ⟨?_, ?_⟩
  · simp only [h]
  · simp only [h]
    rfl

/-- Else the tasks are run, and the result is what is collected of them. The note in front of the run changes
neither the tree nor the library. -/
theorem convert_eq (h : workersFault (workers settings given) = none) (app : App) (out : Path) (w : Workshop) :
    ∃ noted : Workshop, noted.shared = w.shared ∧
      (convert app settings out given w).1 = (collect [] (runTasks app settings out (plan app) noted).1).map
        (fun done => (plan app).filterMap fun task => done.lookup task.fileName) ∧
      (convert app settings out given w).2.shared = (runTasks app settings out (plan app) noted).2.shared := by
  unfold convert
  simp only [h]
  generalize hnoted : Workshop.note w _ _ = noted
  have hshared : noted.shared = w.shared := by
    rw [← hnoted]
    rfl
  refine ⟨noted, hshared, ?_⟩
  cases hcollect : collect [] (runTasks app settings out (plan app) noted).1 with
  | ok done => exact ⟨rfl, rfl⟩
  | error f =>
      obtain ⟨_, name, cause, _, written, _, _, rfl, _⟩ := collect_eq_error hcollect
      exact ⟨rfl, rfl⟩

end Convert

/-- A step with a field whose label is half of a surrogate pair. -/
def torn : App where
  title := "Torn"
  description := []
  triggers := [("a", ⟨"a", [⟨"id", .null, .str [0xD800], .null, false, .null⟩], []⟩)]
  searches := []
  actions := []

/-- A tree with templates, and with the file of a step from before. -/
def tornTree : Tree :=
  [(("t/trigger.js.j2" : Text), ("\x7b\x7b fields \x7d\x7d" : Text)), ("t/index.js.j2", []), ("t/package.json.j2", []),
   ("out/triggers/a.js", "good")].foldl (fun t file => (t.writeText (.ofText file.1) file.2).tree) Tree.empty

def tornWorkshop : Workshop := ⟨tornTree, .ofHome (.directory (.ofText "t")), []⟩

/-- The outcome of a conversion that failed at a text that cannot be encoded. -/
def failedEncoding : Except Fault (List Path) → Option Text
  | .error (.conversion (.str name) (.encoding _) _) => some name
  | _ => none

theorem torn_fails :
    failedEncoding (convert torn {} (.ofText "out") (.int 1) tornWorkshop).1 = some "triggers/a.js" := by
  decide +kernel

end StepForge.Conversion
