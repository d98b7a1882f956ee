import Mathlib.Algebra.Ring.Nat
import Mathlib.Data.List.Nodup
import Mathlib.Logic.Relation
import Mathlib.Order.WellFounded
import StepForge.Conversion.Run
import StepForge.Proofs.Conversion.Places

/-!
# `StepForge.Proofs.Conversion.Pool` — tasks of a conversion, step by step

Workers run tasks side by side on one tree and one library. Between two steps of one task any steps of the
others can come: a step renders the text, tries to make one directory, looks whether a directory is there,
empties the file, or fills it. `advance` is the next step of one task. Run alone, its steps come to what
`runTask` does (`runTask_leads`), so the steps are those of the sequential run, cut apart.

## Contents
- `Shared`, `Stage`, `advance` — one step of one task.
- `Leads`, `runTask_leads` — a task that runs alone.
- `Job`, `Pool`, `Pool.Step` — steps of several tasks in any order, with a limit on those under way.
- `rank_advance`, `Pool.no_endless_run`, `Pool.progress` — no run goes on for ever, and none is stuck
  before its end.
-/

namespace StepForge.Conversion

/-! ## One task -/

/-- What the tasks of a conversion share. -/
structure Shared where
  tree : Tree
  library : Template.Library

/-- How far a task is. Directories are tried from the innermost outwards until one can be made, and from
there inwards again. -/
inductive Stage where
  | planned
  | descending (text : Text) (depth : Nat)
  | ascending (text : Text) (depth : Nat)
  | checking (text : Text) (depth : Nat) (fault : FileFault)
  | emptying (text : Text)
  | filling (bytes : List UInt8)
  | done (result : Except Fault Path)

/-- The directory of a planned file. -/
def Task.folder (out : Path) (task : Task) : Path := (task.path out).parent

namespace Stage

/-- The end of a task that failed at a path. -/
def failed (p : Path) (fault : FileFault) : Stage := done (.error (textFault (p.textFault fault)))

/-- The stage behind a directory that is there: the next directory, or the file. -/
def onwards (dir : Path) (text : Text) (depth : Nat) : Stage :=
  if depth < dir.names.length then ascending text (depth + 1) else emptying text

/-- The stage behind a directory that cannot be made for lack of its parent: the parent, if there is one. -/
def outwards (dir : Path) (text : Text) (fault : FileFault) : Nat → Stage
  | 0 => failed dir fault
  | depth + 1 => descending text depth

/-- Whether a task has ended. -/
def isDone : Stage → Bool
  | done _ => true
  | _ => false

/-- Whether a task has a worker: it was begun and has not ended. -/
def isBusy : Stage → Bool
  | planned => false
  | done _ => false
  | _ => true

end Stage

/-- What comes of trying to make a directory: if it is missing a parent, the stage `missing`, and if there
is something in its place, a look at it. -/
def tried (s : Shared) (dir : Path) (text : Text) (depth : Nat) (missing : FileFault → Stage) :
    Except FileFault Tree → Shared × Stage
  | .ok t => ({ s with tree := t }, .onwards dir text depth)
  | .error (.system .missing p) => (s, missing (.system .missing p))
  | .error (.system cause p) => (s, .checking text depth (.system cause p))
  | .error .nullCharacter => (s, .failed dir .nullCharacter)

section Advance

variable (app : App) (settings : Settings) (out : Path) (task : Task)

/-- The next step of a task. -/
def advance (s : Shared) : Stage → Shared × Stage
  | .planned =>
      let (r, library) := task.artifact.render app settings s.tree s.library
      ({ s with library := library }, match r with
        | .ok text => .descending text (task.folder out).names.length
        | .error f => .done (.error f))
  | .descending text depth =>
      tried s (task.folder out) text depth (fun fault => .outwards (task.folder out) text fault depth)
        (s.tree.makeDir ((task.folder out).upTo depth))
  | .ascending text depth =>
      tried s (task.folder out) text depth (.failed (task.folder out)) (s.tree.makeDir ((task.folder out).upTo depth))
  | .checking text depth fault =>
      (s, if s.tree.isDir ((task.folder out).upTo depth) then .onwards (task.folder out) text depth
        else .failed (task.folder out) fault)
  | .emptying text => match s.tree.writeBytes (task.path out) [] with
      | .error fault => (s, .failed (task.path out) fault)
      | .ok t => ({ s with tree := t }, match Utf8.encode text with
          | .error fault => .done (.error (.encoding fault))
          | .ok bytes => .filling bytes)
  | .filling bytes => match s.tree.writeBytes (task.path out) bytes with
      | .error fault => (s, .failed (task.path out) fault)
      | .ok t => ({ s with tree := t }, .done (.ok (task.path out)))
  | .done r => (s, .done r)

/-- A task that has ended stays as it is. -/
theorem advance_of_done {s : Shared} {stage : Stage} (h : stage.isDone = true) :
    advance app settings out task s stage = (s, stage) := by
  cases stage with
  | done r => rfl
  | _ => cases h

/-- The states that a task comes to when it runs alone. -/
def Leads : Shared × Stage → Shared × Stage → Prop :=
  Relation.ReflTransGen fun a b => advance app settings out task a.1 a.2 = b

end Advance

/-! ## A task that runs alone -/

section Alone

variable {app : App} {settings : Settings} {out : Path} {task : Task}

theorem Leads.step {s u : Shared} {stage next : Stage} {b : Shared × Stage}
    (h : advance app settings out task s stage = (u, next)) (k : Leads app settings out task (u, next) b) :
    Leads app settings out task (s, stage) b := Relation.ReflTransGen.head h k

theorem Leads.last {s u : Shared} {stage next : Stage}
    (h : advance app settings out task s stage = (u, next)) :
    Leads app settings out task (s, stage) (u, next) := Relation.ReflTransGen.single h

/-- The stage behind the making of a directory. -/
def stageOf (dir : Path) (text : Text) (depth : Nat) : Except FileFault Unit → Stage
  | .ok () => .onwards dir text depth
  | .error fault => .failed dir fault

/-- A look at what stands at a place ends the making of a directory there. -/
theorem checking_leads (s : Shared) (text : Text) (depth : Nat) (fault : FileFault) :
    Leads app settings out task (s, .checking text depth fault)
      (s, stageOf (task.folder out) text depth
        (if s.tree.isDir ((task.folder out).upTo depth) then .ok () else .error fault)) := by
  apply Leads.last
  rw [advance]
  split
  · rfl
  · rfl

/-- A directory tried behind its parents is made, or looked at. -/
theorem ascending_leads (s : Shared) (text : Text) (depth : Nat) :
    Leads app settings out task (s, .ascending text depth)
      (match s.tree.makeDir ((task.folder out).upTo depth) with
        | .ok t => ({ s with tree := t }, .onwards (task.folder out) text depth)
        | .error (.system cause p) => (s, stageOf (task.folder out) text depth
            (if cause ≠ .missing && s.tree.isDir ((task.folder out).upTo depth) then .ok ()
              else .error (.system cause p)))
        | .error .nullCharacter => (s, .failed (task.folder out) .nullCharacter)) := by
  cases hdir : s.tree.makeDir ((task.folder out).upTo depth) with
  | ok t => exact Leads.last (by rw [advance, hdir]; rfl)
  | error fault =>
      cases fault with
      | nullCharacter => exact Leads.last (by rw [advance, hdir]; rfl)
      | system cause p =>
          cases cause with
          | missing => exact Leads.last (by rw [advance, hdir]; rfl)
          | _ => exact Leads.step (by rw [advance, hdir]; rfl) (checking_leads s text depth _)

/-- **Directories made step by step** are those that are made at once. -/
theorem makeDirsWithin_leads (text : Text) (depth : Nat) (hdepth : depth ≤ (task.folder out).names.length)
    (s : Shared) :
    Leads app settings out task (s, .descending text depth)
      ({ s with tree := (Tree.makeDirsWithin depth s.tree ((task.folder out).upTo depth)).tree },
        stageOf (task.folder out) text depth
          (Tree.makeDirsWithin depth s.tree ((task.folder out).upTo depth)).result) := by
  induction depth with
  | zero =>
      rw [Tree.makeDirsWithin]
      cases hdir : s.tree.makeDir ((task.folder out).upTo 0) with
      | ok t => exact Leads.last (by rw [advance, hdir]; rfl)
      | error fault =>
          cases fault with
          | nullCharacter => exact Leads.last (by rw [advance, hdir]; rfl)
          | system cause p =>
              cases cause with
              | missing => exact Leads.last (by rw [advance, hdir]; rfl)
              | _ =>
                exact Leads.step (by rw [advance, hdir]; rfl) (checking_leads s text 0 _)
  | succ depth ih =>
      rw [Tree.makeDirsWithin]
      cases hdir : s.tree.makeDir ((task.folder out).upTo (depth + 1)) with
      | ok t => exact Leads.last (by rw [advance, hdir]; rfl)
      | error fault =>
          cases fault with
          | nullCharacter => exact Leads.last (by rw [advance, hdir]; rfl)
          | system cause p =>
              cases cause with
              | missing =>
                  -- The task turns outwards, comes back behind the parents, and tries once more.
                  have hparent := Path.parent_upTo (p := task.folder out) (k := depth) hdepth
                  have hfirst := ih (by omega)
                  have hstep : advance app settings out task s (.descending text (depth + 1)) =
                      (s, .descending text depth) := by
                    rw [advance, hdir]
                    rfl
                  refine Leads.step hstep ?_
                  simp only [hparent]
                  generalize Tree.makeDirsWithin depth s.tree ((task.folder out).upTo depth) = made at hfirst ⊢
                  obtain ⟨t, result⟩ := made
                  cases result with
                  | error fault => exact hfirst
                  | ok _ =>
                      have honwards : Stage.onwards (task.folder out) text depth = .ascending text (depth + 1) :=
                        if_pos hdepth
                      rw [stageOf, honwards] at hfirst
                      refine Relation.ReflTransGen.trans hfirst ?_
                      have hagain : Leads app settings out task _ _ :=
                        ascending_leads { s with tree := t } text (depth + 1)
                      cases hmade : t.makeDir ((task.folder out).upTo (depth + 1)) with
                      | ok u =>
                          simp only [hmade] at hagain ⊢
                          exact hagain
                      | error fault =>
                          cases fault with
                          | nullCharacter =>
                              simp only [hmade] at hagain ⊢
                              exact hagain
                          | system cause q =>
                              simp only [hmade] at hagain ⊢
                              exact hagain
              | _ =>
                exact Leads.step (by rw [advance, hdir]; rfl) (checking_leads s text (depth + 1) _)

/-- **A file emptied and filled** is one that is written at once. -/
theorem putText_leads (s : Shared) (text : Text) :
    Leads app settings out task (s, .emptying text)
      ({ s with tree := (s.tree.putText (task.path out) text).tree },
        .done (match (s.tree.putText (task.path out) text).result with
          | .ok () => .ok (task.path out)
          | .error fault => .error (textFault fault))) := by
  unfold Tree.putText
  cases hempty : s.tree.writeBytes (task.path out) [] with
  | error fault => exact Leads.last (by rw [advance, hempty]; rfl)
  | ok emptied =>
      cases hbytes : Utf8.encode text with
      | error fault => exact Leads.last (by simp only [advance, hempty, hbytes]; rfl)
      | ok bytes =>
          have hstep : advance app settings out task s (.emptying text) =
              ({ s with tree := emptied }, .filling bytes) := by
            simp only [advance, hempty, hbytes]
          refine Leads.step hstep ?_
          cases hfill : emptied.writeBytes (task.path out) bytes with
          | error fault => exact Leads.last (by simp only [advance, hfill]; rfl)
          | ok filled => exact Leads.last (by simp only [advance, hfill])

/-- **A task that runs alone** does what `runTask` does. -/
theorem runTask_leads (w : Workshop) :
    Leads app settings out task (⟨w.tree, w.library⟩, .planned)
      (⟨(runTask app settings out task w).2.tree, (runTask app settings out task w).2.library⟩,
        .done (runTask app settings out task w).1) := by
  unfold runTask
  cases hrender : task.artifact.render app settings w.tree w.library with
  | mk r library =>
      cases r with
      | error f => exact Leads.last (by simp only [advance, hrender])
      | ok text =>
          have hstep : advance app settings out task ⟨w.tree, w.library⟩ .planned =
              (⟨w.tree, library⟩, .descending text (task.folder out).names.length) := by
            simp only [advance, hrender]
          refine Leads.step hstep ?_
          have hmade : Leads app settings out task _ _ :=
            makeDirsWithin_leads text (task.folder out).names.length (Nat.le_refl _) ⟨w.tree, library⟩
          rw [Path.upTo_length] at hmade
          unfold writeFile Tree.writeText
          have hfolder : (out / task.fileName).parent = task.folder out := rfl
          simp only [hfolder, Tree.makeDirs]
          generalize Tree.makeDirsWithin _ w.tree (task.folder out) = made at hmade ⊢
          obtain ⟨t, result⟩ := made
          cases result with
          | error fault => exact hmade
          | ok _ =>
              have honwards : Stage.onwards (task.folder out) text (task.folder out).names.length =
                  .emptying text := if_neg (Nat.lt_irrefl _)
              rw [stageOf, honwards] at hmade
              refine Relation.ReflTransGen.trans hmade ?_
              have hput : Leads app settings out task _ _ := putText_leads ⟨t, library⟩ text
              have hpath : out / task.fileName = task.path out := rfl
              simp only [hpath]
              cases hresult : (t.putText (task.path out) text).result with
              | error fault =>
                  simp only [hresult] at hput ⊢
                  exact hput
              | ok _ =>
                  simp only [hresult] at hput ⊢
                  exact hput

end Alone

/-! ## Several tasks -/

/-- A task with how far it is. -/
structure Job where
  task : Task
  stage : Stage

/-- How a job ended, if it did. -/
def Job.outcome? (job : Job) : Option Outcome :=
  match job.stage with
  | .done r => some (job.task.fileName, r)
  | _ => none

/-- Jobs on what they share. -/
structure Pool where
  shared : Shared
  jobs : List Job

namespace Pool

/-- The number of jobs that have a worker. -/
def busy (jobs : List Job) : Nat := jobs.countP (·.stage.isBusy)

/-- Whether all jobs have ended. -/
def finished (pool : Pool) : Bool := pool.jobs.all (·.stage.isDone)

/-- How the jobs ended that have ended. -/
def outcomes (pool : Pool) : List Outcome := pool.jobs.filterMap Job.outcome?

/-- All tasks planned and none begun. -/
def start (w : Workshop) (tasks : List Task) : Pool :=
  ⟨⟨w.tree, w.library⟩, tasks.map fun task => ⟨task, .planned⟩⟩

/-- **One step of any job** that has not ended. A job can be begun if there is a worker for it. -/
inductive Step (app : App) (settings : Settings) (out : Path) (limit : Option Nat) : Pool → Pool → Prop
  | job (s : Shared) (before after : List Job) (job : Job) (hopen : job.stage.isDone = false)
      (hroom : job.stage = .planned → ∀ most ∈ limit, busy (before ++ after) < most) :
      Step app settings out limit ⟨s, before ++ job :: after⟩
        ⟨(advance app settings out job.task s job.stage).1,
          before ++ ⟨job.task, (advance app settings out job.task s job.stage).2⟩ :: after⟩

/-- Steps of jobs in any order. -/
def Reaches (app : App) (settings : Settings) (out : Path) (limit : Option Nat) : Pool → Pool → Prop :=
  Relation.ReflTransGen (Step app settings out limit)

theorem map_task_start (w : Workshop) (tasks : List Task) : (start w tasks).jobs.map Job.task = tasks := by
  unfold start
  rw [List.map_map]
  exact List.map_id _

/-- The job that takes a step, and the others. -/
theorem mem_middle {before after : List Job} {job other : Job} :
    other ∈ before ++ job :: after ↔ other = job ∨ other ∈ before ++ after := by
  rw [List.perm_middle.mem_iff, List.mem_cons]

/-- Where the names of all tasks differ, one job has a name that the others do not have. -/
theorem fileName_ne {tasks : List Task} {before after : List Job} {job : Job}
    (htasks : (before ++ job :: after).map Job.task = tasks) (hdistinct : (tasks.map Task.fileName).Nodup) :
    ∀ other ∈ before ++ after, other.task.fileName ≠ job.task.fileName := by
  have hnodup : ((before ++ job :: after).map fun other => other.task.fileName).Nodup := by
    rw [← htasks, List.map_map] at hdistinct
    exact hdistinct
  rw [List.map_append, List.map_cons, List.nodup_middle, List.nodup_cons, ← List.map_append] at hnodup
  intro other hother heq
  exact hnodup.1 (heq ▸ List.mem_map_of_mem hother)

variable {app : App} {settings : Settings} {out : Path} {limit : Option Nat} {pool next : Pool}

/-- **No pool is stuck**: while a job has not ended, there is a step, if there is a worker at all. -/
theorem progress (hlimit : limit ≠ some 0) (hopen : pool.finished = false) :
    ∃ next, Step app settings out limit pool next := by
  obtain ⟨s, jobs⟩ := pool
  by_cases hbusy : ∃ job ∈ jobs, job.stage.isBusy = true
  · obtain ⟨job, hjob, hbusy⟩ := hbusy
    obtain ⟨before, after, rfl⟩ := List.append_of_mem hjob
    refine ⟨_, Step.job s before after job ?_ ?_⟩
    · cases hstage : job.stage <;> simp_all [Stage.isBusy, Stage.isDone]
    · intro hplanned
      rw [hplanned] at hbusy
      cases hbusy
  · -- No job has a worker, so there is one for a job that was not begun.
    have hnone : ∀ jobs' : List Job, (∀ job ∈ jobs', job ∈ jobs) → busy jobs' = 0 := by
      intro jobs' hsub
      unfold busy
      rw [List.countP_eq_zero]
      intro job hjob hjobBusy
      exact hbusy ⟨job, hsub job hjob, hjobBusy⟩
    unfold finished at hopen
    obtain ⟨job, hjob, hdone⟩ := List.all_eq_false.1 hopen
    obtain ⟨before, after, rfl⟩ := List.append_of_mem hjob
    refine ⟨_, Step.job s before after job (by simpa using hdone) ?_⟩
    intro _ most hmost
    have hsub : ∀ other ∈ before ++ after, other ∈ before ++ job :: after := by
      intro other hother
      rcases List.mem_append.1 hother with hother | hother
      · exact List.mem_append_left _ hother
      · exact List.mem_append_right _ (List.mem_cons_of_mem job hother)
    rw [hnone (before ++ after) hsub]
    apply Nat.pos_of_ne_zero
    rintro rfl
    exact hlimit hmost

end Pool

/-! ## Every run ends -/

/-- A bound on the number of steps that a task still takes, given the names of its directory. -/
def Stage.rank (length : Nat) : Stage → Nat
  -- Outwards the depth falls; inwards it rises, and each directory can cost a try and a look.
  | planned => 3 * length + 5
  | descending _ depth => 2 * length + 4 + depth
  | ascending _ depth => 2 * (length - depth) + 4
  | checking _ depth _ => 2 * (length - depth) + 3
  | emptying _ => 2
  | filling _ => 1
  | done _ => 0

/-- The same of a job. -/
def Job.rank (out : Path) (job : Job) : Nat := job.stage.rank (job.task.folder out).names.length

theorem Stage.rank_onwards (dir : Path) (text : Text) (depth : Nat) :
    (Stage.onwards dir text depth).rank dir.names.length < 2 * (dir.names.length - depth) + 3 := by
  unfold onwards
  split
  · show 2 * (dir.names.length - (depth + 1)) + 4 < _
    omega
  · show 2 < _
    omega

/-- What comes of trying to make a directory is nearer to the end. -/
theorem rank_tried {s : Shared} {dir : Path} {text : Text} {depth bound : Nat}
    {missing : FileFault → Stage} (hbound : 2 * (dir.names.length - depth) + 3 < bound)
    (hmissing : ∀ fault, (missing fault).rank dir.names.length < bound) (r : Except FileFault Tree) :
    (tried s dir text depth missing r).2.rank dir.names.length < bound := by
  have honwards := Stage.rank_onwards dir text depth
  cases r with
  | ok t =>
      show (Stage.onwards dir text depth).rank _ < _
      omega
  | error fault =>
      cases fault with
      | nullCharacter =>
          show 0 < _
          omega
      | system cause p =>
          cases cause with
          | missing => exact hmissing _
          | _ => exact hbound

/-- **Every step of a task brings it nearer to its end.** -/
theorem rank_advance {app : App} {settings : Settings} {out : Path} {task : Task} (s : Shared)
    {stage : Stage} (hopen : stage.isDone = false) :
    (advance app settings out task s stage).2.rank (task.folder out).names.length <
      stage.rank (task.folder out).names.length := by
  cases stage with
  | planned =>
      unfold advance
      cases hrender : task.artifact.render app settings s.tree s.library with
      | mk r library =>
          cases r with
          | ok text =>
              show 2 * _ + 4 + _ < 3 * _ + 5
              omega
          | error f =>
              show 0 < 3 * _ + 5
              omega
  | descending text depth =>
      refine rank_tried ?_ ?_ _
      · show _ < 2 * _ + 4 + depth
        omega
      · intro fault
        cases depth with
        | zero =>
            show 0 < 2 * _ + 4 + 0
            omega
        | succ depth =>
            show 2 * _ + 4 + depth < 2 * _ + 4 + (depth + 1)
            omega
  | ascending text depth =>
      refine rank_tried ?_ ?_ _
      · show _ < 2 * _ + 4
        omega
      · intro fault
        show 0 < 2 * _ + 4
        omega
  | checking text depth fault =>
      have honwards := Stage.rank_onwards (task.folder out) text depth
      rw [advance]
      dsimp only
      split
      · exact honwards
      · show 0 < 2 * _ + 3
        omega
  | emptying text =>
      rw [advance]
      cases s.tree.writeBytes (task.path out) [] with
      | error fault => exact Nat.zero_lt_two
      | ok t =>
          cases Utf8.encode text with
          | error fault => exact Nat.zero_lt_two
          | ok bytes => exact Nat.one_lt_two
  | filling bytes =>
      rw [advance]
      cases s.tree.writeBytes (task.path out) bytes with
      | error fault => exact Nat.zero_lt_one
      | ok t => exact Nat.zero_lt_one
  | done r => cases hopen

/-- A bound on the number of steps that a pool still takes. -/
def Pool.rank (out : Path) (pool : Pool) : Nat := (pool.jobs.map (Job.rank out)).sum

theorem Pool.Step.rank_lt {app : App} {settings : Settings} {out : Path} {limit : Option Nat}
    {pool next : Pool} (h : Step app settings out limit pool next) : next.rank out < pool.rank out := by
  cases h with
  | job s before after job hopen hroom =>
      have hjob := @rank_advance app settings out job.task s _ hopen
      simp only [Pool.rank, List.map_append, List.map_cons, List.sum_append, List.sum_cons, Job.rank]
      omega

/-- **No run goes on for ever.** -/
theorem Pool.no_endless_run {app : App} {settings : Settings} {out : Path} {limit : Option Nat} :
    ¬ ∃ run : Nat → Pool, ∀ n, Step app settings out limit (run n) (run (n + 1)) := by
  rintro ⟨run, hrun⟩
  obtain ⟨n, hn⟩ := WellFounded.not_rel_apply_succ (r := (· < ·)) fun n => (run n).rank out
  exact hn (hrun n).rank_lt

/-- Every pool can be run to its end. -/
theorem Pool.exists_finished {app : App} {settings : Settings} {out : Path} {limit : Option Nat}
    (hlimit : limit ≠ some 0) (pool : Pool) :
    ∃ last, Reaches app settings out limit pool last ∧ last.finished = true := by
  induction hrank : pool.rank out using Nat.strongRecOn generalizing pool with
  | ind bound ih =>
      cases hopen : pool.finished with
      | true => exact ⟨pool, Relation.ReflTransGen.refl, hopen⟩
      | false =>
          obtain ⟨next, hstep⟩ := @progress app settings out limit pool hlimit hopen
          obtain ⟨last, hlast, hfinished⟩ := ih (next.rank out) (hrank ▸ hstep.rank_lt) next rfl
          exact ⟨last, Relation.ReflTransGen.head hstep hlast, hfinished⟩

end StepForge.Conversion
