import Mathlib.Data.List.Perm.Subperm
import StepForge.Proofs.Conversion.Halted

/-!
# `StepForge.Proofs.Conversion.Gathering` — finished tasks handed back while others run

While workers take steps of the tasks, a loop takes the finished ones in any order, up to the first that
failed. A task can fail at any point and for any reason, also for one that the tree does not show. What is
collected comes from what was handed back, what was handed back comes from jobs that have ended, and a job
that ended well had all the bytes of its text in its file when it did.

## Contents
- `Gathering`, `Gathering.Step`, `Gathering.Over` — a pool and a loop that collects from it.
- `Gathering.Wrote`, `Gathering.Sound`, `Sound.step`, `Sound.of_reaches` — what is true of every run.
- `Gathering.no_endless_run`, `Gathering.progress` — the loop comes to its end.
- `runTasks_reaches`, `convert_reaches` — tasks one after another are one of the runs.
- `Sound.error_iff`, `Sound.returned`, `Sound.error`, `gathered` — what the loop returns, and what it raises.
-/

namespace StepForge.Conversion

/-- A pool, and what the collecting loop was handed back, the first one in front. -/
structure Gathering where
  pool : Pool
  handed : List Outcome

namespace Gathering

/-- All tasks planned, none begun, and none handed back. -/
def start (w : Workshop) (tasks : List Task) : Gathering := ⟨Pool.start w tasks, []⟩

/-- What the loop makes of what it was handed back: the paths in planning order, or the error. -/
def result (tasks : List Task) (g : Gathering) : Except Fault (List Path) :=
  (collect [] g.handed).map fun done => tasks.filterMap fun task => done.lookup task.fileName

/-- **One step of a job or of the loop.** -/
inductive Step (app : App) (settings : Settings) (out : Path) (limit : Option Nat) : Gathering → Gathering → Prop
  /-- A job takes its next step. -/
  | work {pool next : Pool} (handed : List Outcome) (h : Pool.Step app settings out limit pool next) :
      Step app settings out limit ⟨pool, handed⟩ ⟨next, handed⟩
  /-- A job fails where it is. It can fail for lack of anything, so the cause is arbitrary. -/
  | fail (s : Shared) (before after : List Job) (job : Job) (handed : List Outcome) (cause : Fault)
      (hopen : job.stage.isDone = false)
      (hroom : job.stage = .planned → ∀ most ∈ limit, Pool.busy (before ++ after) < most) :
      Step app settings out limit ⟨⟨s, before ++ job :: after⟩, handed⟩
        ⟨⟨s, before ++ ⟨job.task, .done (.error cause)⟩ :: after⟩, handed⟩
  /-- The loop, if it goes on, is handed back a job that has ended and that it was not handed before. -/
  | hand {pool : Pool} {handed : List Outcome} (o : Outcome) (hgood : ∀ o ∈ handed, Good o)
      (hnew : (handed ++ [o]).Subperm pool.outcomes) :
      Step app settings out limit ⟨pool, handed⟩ ⟨pool, handed ++ [o]⟩

/-- Steps of jobs and of the loop in any order. -/
def Reaches (app : App) (settings : Settings) (out : Path) (limit : Option Nat) : Gathering → Gathering → Prop :=
  Relation.ReflTransGen (Step app settings out limit)

/-- The loop has ended: it was handed back a failure, or all jobs have ended and it was handed back all. -/
def Over (g : Gathering) : Prop :=
  (∃ o ∈ g.handed, ¬ Good o) ∨ g.pool.finished = true ∧ g.handed.Perm g.pool.outcomes

end Gathering

/-! ## Jobs that have ended -/

theorem outcome?_eq_some_iff {job : Job} {o : Outcome} :
    job.outcome? = some o ↔ job.stage = .done o.2 ∧ job.task.fileName = o.1 := by
  obtain ⟨task, stage⟩ := job
  obtain ⟨name, r⟩ := o
  unfold Job.outcome?
  cases stage <;> simp [and_comm]

theorem Pool.mem_outcomes {pool : Pool} {o : Outcome} :
    o ∈ pool.outcomes ↔ ∃ job ∈ pool.jobs, job.stage = .done o.2 ∧ job.task.fileName = o.1 := by
  unfold outcomes
  rw [List.mem_filterMap]
  simp only [outcome?_eq_some_iff]

/-- A job that has not ended is not among those that have. -/
theorem Pool.outcomes_sublist {s u : Shared} {before after : List Job} {job : Job}
    (hopen : job.stage.isDone = false) (stage : Stage) :
    (Pool.mk s (before ++ job :: after)).outcomes.Sublist
      (Pool.mk u (before ++ ⟨job.task, stage⟩ :: after)).outcomes := by
  have hnone : job.outcome? = none := by
    obtain ⟨task, stage⟩ := job
    cases stage <;> first | rfl | cases hopen
  unfold outcomes
  rw [List.filterMap_append, List.filterMap_cons_none hnone, List.filterMap_append]
  refine (List.Sublist.refl _).append ?_
  exact (List.sublist_cons_self _ _).filterMap _

/-! ## Every run -/

namespace Gathering

variable {app : App} {settings : Settings} {out : Path} {w : Workshop} {limit : Option Nat} {g next : Gathering}

/-- A job had its file complete at some moment of the run. -/
def Wrote (app : App) (settings : Settings) (out : Path) (w : Workshop) (limit : Option Nat) (g : Gathering)
    (job : Job) : Prop :=
  ∃ mid, Reaches app settings out limit (start w (plan app)) mid ∧ Reaches app settings out limit mid g ∧
    job ∈ mid.pool.jobs ∧ Complete app settings out job.task mid.pool.shared

theorem Wrote.step {job : Job} (h : Wrote app settings out w limit g job)
    (hstep : Step app settings out limit g next) : Wrote app settings out w limit next job := by
  obtain ⟨mid, hfirst, hmid, hmem, hcomplete⟩ := h
  exact ⟨mid, hfirst, hmid.tail hstep, hmem, hcomplete⟩

/-- **What is true of every run**: what was handed back are jobs that have ended; and a job that ended well had
its file complete at some moment of the run, and has it still if no other file has its name. -/
structure Sound (app : App) (settings : Settings) (out : Path) (w : Workshop) (limit : Option Nat)
    (g : Gathering) : Prop where
  shown : Pool.Shown app settings w g.pool
  handed : g.handed.Subperm g.pool.outcomes
  written : ∀ job ∈ g.pool.jobs, ∀ p, job.stage = .done (.ok p) →
    p = job.task.path out ∧ Wrote app settings out w limit g job
  kept : ((plan app).map Task.fileName).Nodup → ∀ job ∈ g.pool.jobs, ∀ p, job.stage = .done (.ok p) →
    Complete app settings out job.task g.pool.shared

theorem Sound.start (app : App) (settings : Settings) (out : Path) (w : Workshop) (limit : Option Nat) :
    Sound app settings out w limit (start w (plan app)) where
  shown := Pool.Shown.start app settings w
  handed := List.nil_subperm
  written job hjob p h := by
    obtain ⟨task, _, rfl⟩ := List.mem_map.1 hjob
    cases h
  kept _ job hjob p h := by
    obtain ⟨task, _, rfl⟩ := List.mem_map.1 hjob
    cases h

/-- One job of a sound run in another stage: if it has ended well, its file is complete. -/
theorem Sound.replace {s u : Shared} {before after : List Job} {job : Job} {stage : Stage} {handed : List Outcome}
    (h : Sound app settings out w limit ⟨⟨s, before ++ job :: after⟩, handed⟩)
    (hreach : Reaches app settings out limit (Gathering.start w (plan app)) ⟨⟨s, before ++ job :: after⟩, handed⟩)
    (hstep : Step app settings out limit ⟨⟨s, before ++ job :: after⟩, handed⟩
      ⟨⟨u, before ++ ⟨job.task, stage⟩ :: after⟩, handed⟩)
    (hopen : job.stage.isDone = false) (hspares : Spares app out job.task.fileName s u)
    (hshows : stage.Shows app settings job.task u)
    (hok : ∀ p, stage = .done (.ok p) → p = job.task.path out ∧ Complete app settings out job.task u) :
    Sound app settings out w limit ⟨⟨u, before ++ ⟨job.task, stage⟩ :: after⟩, handed⟩ := by
  have hnext : Reaches app settings out limit (Gathering.start w (plan app)) _ := hreach.tail hstep
  have hin : ∀ other ∈ before ++ after, other ∈ before ++ job :: after := fun other hother =>
    Pool.mem_middle.2 (Or.inr hother)
  refine ⟨h.shown.replace hspares.steady hshows, h.handed.trans (Pool.outcomes_sublist hopen stage).subperm, ?_, ?_⟩
  · intro other hother p hp
    rcases Pool.mem_middle.1 hother with rfl | hrest
    · exact ⟨(hok p hp).1, _, hnext, Relation.ReflTransGen.refl, hother, (hok p hp).2⟩
    · obtain ⟨hpath, hwrote⟩ := h.written other (hin other hrest) p hp
      exact ⟨hpath, hwrote.step hstep⟩
  · intro hdistinct other hother p hp
    rcases Pool.mem_middle.1 hother with rfl | hrest
    · exact (hok p hp).2
    · have hplace := hspares.others other.task (h.shown.planned (hin other hrest))
        (Pool.fileName_ne h.shown.tasks hdistinct other hrest)
      exact (h.kept hdistinct other (hin other hrest) p hp).spared hspares.steady hplace

/-- **One step more** leaves a run sound. -/
theorem Sound.step (h : Sound app settings out w limit g)
    (hreach : Reaches app settings out limit (Gathering.start w (plan app)) g)
    (hstep : Step app settings out limit g next) : Sound app settings out w limit next := by
  cases hstep with
  | work handed hjob =>
      cases hjob with
      | job s before after job hopen hroom =>
          have hmem : job ∈ before ++ job :: after := by simp
          have htask := h.shown.planned hmem
          have hshows := h.shown.shows job hmem
          exact h.replace hreach (.work handed (.job s before after job hopen hroom)) hopen
            (advance_spares htask settings out s job.stage) (hshows.advance htask)
            (fun p hp => hshows.completes htask hopen hp)
  | fail s before after job handed cause hopen hroom =>
      refine h.replace hreach (.fail s before after job handed cause hopen hroom) hopen (Spares.refl _ _ _ _)
        trivial fun p hp => ?_
      cases hp
  | hand o hgood hnew =>
      refine ⟨h.shown, hnew, ?_, h.kept⟩
      intro job hjob p hp
      obtain ⟨hpath, hwrote⟩ := h.written job hjob p hp
      exact ⟨hpath, hwrote.step (.hand o hgood hnew)⟩

/-- **Every run is sound.** -/
theorem Sound.of_reaches (hreach : Reaches app settings out limit (Gathering.start w (plan app)) g) :
    Sound app settings out w limit g := by
  induction hreach with
  | refl => exact Sound.start app settings out w limit
  | tail hreach hstep ih => exact ih.step hreach hstep

/-! ## The end of a run -/

/-- A bound on the number of steps that are still taken. -/
def rank (out : Path) (g : Gathering) : Nat := g.pool.rank out + (g.pool.jobs.length - g.handed.length)

/-- **Every step brings a run nearer to its end.** -/
theorem Step.rank_lt (h : Step app settings out limit g next) : next.rank out < g.rank out := by
  cases h with
  | work handed hjob =>
      have hlt := hjob.rank_lt
      cases hjob with
      | job s before after job hopen hroom =>
          simp only [rank, List.length_append, List.length_cons] at hlt ⊢
          omega
  | fail s before after job handed cause hopen hroom =>
      have hpos := Nat.zero_lt_of_lt (@rank_advance app settings out job.task s _ hopen)
      have hdone : (Stage.done (.error cause)).rank (job.task.folder out).names.length = 0 := rfl
      simp only [rank, Pool.rank, List.map_append, List.map_cons, List.sum_append, List.sum_cons, Job.rank, hdone,
        List.length_append, List.length_cons]
      omega
  | @hand pool handed o hgood hnew =>
      have hlen : (handed ++ [o]).length ≤ pool.jobs.length :=
        hnew.length_le.trans (List.length_filterMap_le _ _)
      simp only [rank, List.length_append, List.length_singleton] at hlen ⊢
      omega

/-- **No run goes on for ever.** -/
theorem no_endless_run : ¬ ∃ run : Nat → Gathering, ∀ n, Step app settings out limit (run n) (run (n + 1)) := by
  rintro ⟨run, hrun⟩
  obtain ⟨n, hn⟩ := WellFounded.not_rel_apply_succ (r := (· < ·)) fun n => (run n).rank out
  exact hn (hrun n).rank_lt

/-- **The loop comes to its end**: before it there is a step, if there is a worker at all. -/
theorem progress (hlimit : limit ≠ some 0) (h : g.handed.Subperm g.pool.outcomes) (hopen : ¬ g.Over) :
    ∃ next, Step app settings out limit g next := by
  obtain ⟨pool, handed⟩ := g
  have hgood : ∀ o ∈ handed, Good o := by
    intro o ho
    by_contra hbad
    exact hopen (Or.inl ⟨o, ho, hbad⟩)
  cases hfinished : pool.finished with
  | false =>
      obtain ⟨next, hnext⟩ := @Pool.progress app settings out limit pool hlimit hfinished
      exact ⟨_, .work handed hnext⟩
  | true =>
      -- All jobs have ended, so some of them was not handed back yet.
      have hperm : ¬ handed.Perm pool.outcomes := fun hperm => hopen (Or.inr ⟨hfinished, hperm⟩)
      have hlt : handed.length < pool.outcomes.length := by
        refine lt_of_le_of_ne h.length_le fun hlen => hperm ?_
        exact h.perm_of_length_le hlen.ge
      obtain ⟨o, ho⟩ := h.exists_of_length_lt hlt
      exact ⟨_, .hand o hgood ((List.perm_append_singleton o handed).subperm_right.2 ho)⟩

/-! ## Tasks one after another -/

/-- Steps of jobs while nothing is handed back. -/
theorem reaches_of_pool {pool last : Pool} (h : Pool.Reaches app settings out limit pool last)
    (handed : List Outcome) : Reaches app settings out limit ⟨pool, handed⟩ ⟨last, handed⟩ :=
  Relation.ReflTransGen.lift (p := Step app settings out limit) (fun pool => ⟨pool, handed⟩)
    (fun _ _ hstep => .work handed hstep) _ _ h

end Gathering

section Run

variable {app : App} {settings : Settings} {out : Path} {tasks : List Task}

/-- A task that runs alone is a job of a pool whose others do not run. -/
theorem Leads.reaches {task : Task} {before after : List Job} (hidle : Pool.busy (before ++ after) = 0)
    {a b : Shared × Stage} (h : Leads app settings out task a b) :
    Pool.Reaches app settings out (some 1) ⟨a.1, before ++ ⟨task, a.2⟩ :: after⟩
      ⟨b.1, before ++ ⟨task, b.2⟩ :: after⟩ := by
  induction h with
  | refl => exact Relation.ReflTransGen.refl
  | @tail c d _ hstep ih =>
      cases hopen : c.2.isDone with
      | false =>
          refine ih.tail ?_
          rw [← hstep]
          refine .job c.1 before after ⟨task, c.2⟩ hopen ?_
          intro _ most hmost
          cases hmost
          rw [hidle]
          exact Nat.one_pos
      | true =>
          rw [← hstep, advance_of_done _ _ _ _ hopen]
          exact ih

/-- The same for all of its steps. -/
theorem runTask_reaches {front rest : List Job} (hidle : Pool.busy (front ++ rest) = 0) (app : App)
    (settings : Settings) (out : Path) (task : Task) (v : Workshop) :
    Pool.Reaches app settings out (some 1) ⟨v.shared, front ++ ⟨task, .planned⟩ :: rest⟩
      ⟨(runTask app settings out task v).2.shared,
        front ++ ⟨task, .done (runTask app settings out task v).1⟩ :: rest⟩ :=
  (runTask_leads v).reaches hidle

/-- Of jobs that have ended and jobs that were not begun none is under way. -/
theorem busy_eq_zero {front : List Job} (hfront : ∀ job ∈ front, ∃ p, job.stage = .done (.ok p))
    (tasks : List Task) : Pool.busy (front ++ tasks.map fun task => ⟨task, .planned⟩) = 0 := by
  refine List.countP_eq_zero.2 fun job hjob => ?_
  rcases List.mem_append.1 hjob with hjob | hjob
  · obtain ⟨p, hp⟩ := hfront job hjob
    simp [hp, Stage.isBusy]
  · obtain ⟨task, _, rfl⟩ := List.mem_map.1 hjob
    simp [Stage.isBusy]

theorem good_of_mem_outcomes {front : List Job} (hfront : ∀ job ∈ front, ∃ p, job.stage = .done (.ok p)) :
    ∀ o ∈ front.filterMap Job.outcome?, Good o := by
  intro o ho
  obtain ⟨job, hjob, hsome⟩ := List.mem_filterMap.1 ho
  obtain ⟨p, hp⟩ := hfront job hjob
  have hstage := (outcome?_eq_some_iff.1 hsome).1
  rw [hp, Stage.done.injEq] at hstage
  exact ⟨p, hstage.symm⟩

/-- **Tasks one after another are one of the runs**: each task is handed back as soon as it has ended. -/
theorem runTasks_reaches {front : List Job} (hfront : ∀ job ∈ front, ∃ p, job.stage = .done (.ok p)) (app : App)
    (settings : Settings) (out : Path) (tasks : List Task) (v : Workshop) :
    let r := runTasks app settings out tasks v
    let first : Pool := ⟨v.shared, front ++ tasks.map fun task => ⟨task, .planned⟩⟩
    ∃ g : Gathering, Pool.Reaches app settings out (some 1) first g.pool ∧ Pool.busy g.pool.jobs = 0 ∧
      Gathering.Reaches app settings out (some 1) ⟨first, front.filterMap Job.outcome?⟩ g ∧
      g.Over ∧ g.pool.shared = r.2.shared ∧ g.handed = front.filterMap Job.outcome? ++ r.1 := by
  induction tasks generalizing front v with
  | nil =>
      refine ⟨⟨⟨v.shared, front ++ []⟩, front.filterMap Job.outcome?⟩, Relation.ReflTransGen.refl,
        busy_eq_zero hfront [], Relation.ReflTransGen.refl, Or.inr ⟨?_, ?_⟩, rfl, ?_⟩
      · refine List.all_eq_true.2 fun job hjob => ?_
        rw [List.append_nil] at hjob
        obtain ⟨p, hp⟩ := hfront job hjob
        rw [hp]
        rfl
      · simp [Pool.outcomes]
      · simp [runTasks]
  | cons first tasks ih =>
      have hplanned : (tasks.map fun task => (⟨task, .planned⟩ : Job)).filterMap Job.outcome? = [] := by
        simp [List.filterMap_eq_nil_iff, Job.outcome?]
      have hgood := good_of_mem_outcomes hfront
      have hidle := busy_eq_zero hfront tasks
      have hpool := runTask_reaches hidle app settings out first v
      unfold runTasks
      generalize runTask app settings out first v = r at hpool
      obtain ⟨result, u⟩ := r
      have hhand := (Gathering.reaches_of_pool hpool (front.filterMap Job.outcome?)).tail
        (.hand (first.fileName, result) hgood (by
          rw [Pool.outcomes, List.filterMap_append, List.filterMap_cons, hplanned]
          exact List.Subperm.refl _))
      cases result with
      | error f =>
          refine ⟨⟨_, _⟩, hpool, ?_, hhand, Or.inl ⟨(first.fileName, .error f), by simp, ?_⟩, rfl, rfl⟩
          · rw [Pool.busy, List.countP_append] at hidle ⊢
            exact hidle
          · rintro ⟨p, hp⟩
            cases hp
      | ok p =>
          have hfront' : ∀ job ∈ front ++ [⟨first, .done (.ok p)⟩], ∃ p, job.stage = .done (.ok p) := by
            intro job hjob
            rcases List.mem_append.1 hjob with hjob | hjob
            · exact hfront job hjob
            · exact ⟨p, by rw [List.mem_singleton.1 hjob]⟩
          obtain ⟨g, hrest, hidle, hreach, hover, hshared, hhanded⟩ := ih hfront' u
          rw [List.append_assoc] at hrest
          rw [List.filterMap_append, List.append_assoc] at hreach
          rw [List.filterMap_append, List.append_assoc] at hhanded
          exact ⟨g, Relation.ReflTransGen.trans hpool hrest, hidle, Relation.ReflTransGen.trans hhand hreach, hover,
            hshared, hhanded⟩

end Run

/-! ## What the loop makes of a run -/

namespace Gathering

variable {app : App} {settings : Settings} {out : Path} {w : Workshop} {limit : Option Nat} {g : Gathering}

/-- The loop raises an error exactly when it was handed back a failure. -/
theorem exists_error_iff {tasks : List Task} :
    (∃ failure, g.result tasks = .error failure) ↔ ∃ o ∈ g.handed, ¬ Good o := by
  constructor
  · rintro ⟨failure, h⟩
    obtain ⟨front, name, cause, rest, _, houtcomes, _⟩ := collect_eq_error (map_eq_error_iff.1 h)
    refine ⟨(name, .error cause), by simp [houtcomes], ?_⟩
    rintro ⟨p, hp⟩
    cases hp
  · rintro ⟨o, ho, hbad⟩
    cases hcollect : collect [] g.handed with
    | ok kept => exact absurd (exists_collect_eq_ok_iff.1 ⟨kept, hcollect⟩ o ho) hbad
    | error failure => exact ⟨failure, map_eq_error_iff.2 hcollect⟩

/-- What was handed back is a job that has ended so. -/
theorem Sound.job_of_handed (h : Sound app settings out w limit g) {o : Outcome} (ho : o ∈ g.handed) :
    ∃ job ∈ g.pool.jobs, job.stage = .done o.2 ∧ job.task.fileName = o.1 :=
  Pool.mem_outcomes.1 (h.handed.subset ho)

/-- Jobs of one name are one, if the names of the tasks differ. -/
theorem Sound.job_unique (h : Sound app settings out w limit g) (hdistinct : ((plan app).map Task.fileName).Nodup)
    {a b : Job} (ha : a ∈ g.pool.jobs) (hb : b ∈ g.pool.jobs) (hname : a.task.fileName = b.task.fileName) : a = b := by
  rw [← h.shown.tasks, List.map_map] at hdistinct
  exact List.inj_on_of_nodup_map hdistinct ha hb hname

/-- **When the loop has ended, it raises an error exactly if a job has failed.** -/
theorem Sound.error_iff (h : Sound app settings out w limit g) (hover : g.Over) {tasks : List Task} :
    (∃ failure, g.result tasks = .error failure) ↔ ∃ job ∈ g.pool.jobs, ∃ cause, job.stage = .done (.error cause) := by
  rw [exists_error_iff]
  constructor
  · rintro ⟨o, ho, hbad⟩
    obtain ⟨job, hjob, hstage, _⟩ := h.job_of_handed ho
    cases hresult : o.2 with
    | ok p => exact absurd ⟨p, hresult⟩ hbad
    | error cause => exact ⟨job, hjob, cause, hresult ▸ hstage⟩
  · rintro ⟨job, hjob, cause, hstage⟩
    rcases hover with hbad | ⟨_, hperm⟩
    · exact hbad
    · have hmem : (job.task.fileName, .error cause) ∈ g.pool.outcomes := Pool.mem_outcomes.2 ⟨job, hjob, hstage, rfl⟩
      refine ⟨_, hperm.mem_iff.2 hmem, ?_⟩
      rintro ⟨p, hp⟩
      cases hp

/-- **Without a failure the paths of all planned files are returned**, in planning order. -/
theorem Sound.returned (h : Sound app settings out w limit g) (hover : g.Over)
    (hnone : ∀ job ∈ g.pool.jobs, ∀ cause, job.stage ≠ .done (.error cause)) :
    g.result (plan app) = .ok ((plan app).map (Task.path out)) := by
  have hpath : ∀ o ∈ g.handed, o.2 = .ok (out / o.1) := by
    intro o ho
    obtain ⟨job, hjob, hstage, hname⟩ := h.job_of_handed ho
    cases hresult : o.2 with
    | error cause => exact absurd (hresult ▸ hstage) (hnone job hjob cause)
    | ok p =>
        obtain ⟨rfl, _⟩ := h.written job hjob p (hresult ▸ hstage)
        rw [Task.path, hname]
  rcases hover with ⟨o, ho, hbad⟩ | ⟨hfinished, hperm⟩
  · exact absurd ⟨_, hpath o ho⟩ hbad
  · have hnames : ∀ task ∈ plan app, task.fileName ∈ g.handed.map (·.1) := by
      intro task htask
      rw [← h.shown.tasks] at htask
      obtain ⟨job, hjob, rfl⟩ := List.mem_map.1 htask
      have hended := List.all_eq_true.1 hfinished job hjob
      cases hstage : job.stage with
      | done r =>
          have hmem : (job.task.fileName, r) ∈ g.pool.outcomes := Pool.mem_outcomes.2 ⟨job, hjob, hstage, rfl⟩
          exact List.mem_map.2 ⟨_, hperm.mem_iff.2 hmem, rfl⟩
      | _ =>
          rw [hstage] at hended
          cases hended
    obtain ⟨kept, hkept, hpaths⟩ := paths_collect hpath hnames
    rw [result, hkept, Except.map, hpaths]

/-- **What an error says**: its file is that of a job that has failed so, and the names that it lists, strictly
ascending, are those of jobs whose files were complete at some moment before. -/
theorem Sound.error (h : Sound app settings out w limit g) {tasks : List Task} {failure : Fault}
    (hfailure : g.result tasks = .error failure) :
    ∃ job ∈ g.pool.jobs, ∃ cause written, job.task ∈ plan app ∧ job.stage = .done (.error cause) ∧
      failure = .conversion (.str job.task.fileName) cause written ∧ written.Pairwise (· < ·) ∧
      (∀ name ∈ written, ∃ done ∈ g.pool.jobs, done.task ∈ plan app ∧ done.task.fileName = name ∧
        done.stage = .done (.ok (done.task.path out)) ∧ Wrote app settings out w limit g done ∧
        (((plan app).map Task.fileName).Nodup → Complete app settings out done.task g.pool.shared)) ∧
      (((plan app).map Task.fileName).Nodup → job.task.fileName ∉ written) := by
  obtain ⟨front, name, cause, rest, written, houtcomes, hfront, rfl, hascending, hnames⟩ :=
    collect_eq_error (map_eq_error_iff.1 hfailure)
  obtain ⟨job, hjob, hstage, hname⟩ := h.job_of_handed (o := (name, .error cause)) (by simp [houtcomes])
  -- A listed name was collected in front of the failure, so a job of that name ended well.
  have hlisted : ∀ other ∈ written, ∃ done ∈ g.pool.jobs, ∃ p, done.stage = .done (.ok p) ∧
      done.task.fileName = other := by
    intro other hother
    obtain ⟨o, ho, rfl⟩ := List.mem_map.1 ((hnames other).1 hother)
    obtain ⟨p, hp⟩ := hfront o ho
    obtain ⟨done, hdone, hdoneStage, hdoneName⟩ := h.job_of_handed (o := o) (by simp [houtcomes, ho])
    exact ⟨done, hdone, p, hp ▸ hdoneStage, hdoneName⟩
  refine ⟨job, hjob, cause, written, h.shown.planned hjob, hstage, ?_, hascending, ?_, ?_⟩
  · rw [hname]
  · intro other hother
    obtain ⟨done, hdone, p, hp, rfl⟩ := hlisted other hother
    obtain ⟨rfl, hwrote⟩ := h.written done hdone p hp
    exact ⟨done, hdone, h.shown.planned hdone, rfl, hp, hwrote, fun hdistinct => h.kept hdistinct done hdone _ hp⟩
  · intro hdistinct hmem
    obtain ⟨done, hdone, p, hp, hdoneName⟩ := hlisted _ hmem
    have hsame := h.job_unique hdistinct hdone hjob hdoneName
    rw [hsame, hstage] at hp
    cases hp

end Gathering

/-- The run of `convert` is one of the runs of the loop, in which no task fails but for what it finds. -/
theorem convert_reaches {settings : Settings} {given : Value}
    (hworkers : workersFault (workers settings given) = none) (app : App) (out : Path) (w : Workshop) :
    ∃ g : Gathering, Pool.Reaches app settings out (some 1) (Pool.start w (plan app)) g.pool ∧
      Pool.busy g.pool.jobs = 0 ∧
      Gathering.Reaches app settings out (some 1) (Gathering.start w (plan app)) g ∧ g.Over ∧
      g.result (plan app) = (convert app settings out given w).1 ∧
      g.pool.shared = (convert app settings out given w).2.shared := by
  obtain ⟨noted, hnoted, hresult, hafter⟩ := convert_eq hworkers app out w
  have hnone : ∀ job ∈ ([] : List Job), ∃ p, job.stage = .done (.ok p) := fun job hjob => by cases hjob
  obtain ⟨g, hpool, hidle, hreach, hover, hshared, hhanded⟩ :=
    runTasks_reaches hnone app settings out (plan app) noted
  rw [hnoted] at hpool hreach
  refine ⟨g, hpool, hidle, hreach, hover, ?_, hshared.trans hafter.symm⟩
  rw [hresult, Gathering.result, hhanded]
  rfl

/-- **What the collecting loop raises and returns**, whatever the plan, whichever tasks fail at whatever point,
and in whatever order the finished ones are handed back. No run goes on for ever, and before its end there is a
step; the run of `convert` is one of them. At its end the loop raises an error exactly if a task has failed, and
else it returns the planned paths in planning order. An error names the file of a task that has failed with its
cause; the names that it lists are strictly ascending, and each is that of a planned file that held all the
bytes of its text at some moment before. If the planned names are distinct, it holds them still, and
the name of the failed file is not listed. -/
theorem gathered (app : App) (settings : Settings) (out : Path) (w : Workshop) {limit : Option Nat}
    (hlimit : limit ≠ some 0) :
    (¬ ∃ run : Nat → Gathering, run 0 = Gathering.start w (plan app) ∧
        ∀ n, Gathering.Step app settings out limit (run n) (run (n + 1))) ∧
      (∀ given, workersFault (workers settings given) = none →
        ∃ g, Gathering.Reaches app settings out (some 1) (Gathering.start w (plan app)) g ∧ g.Over ∧
          g.result (plan app) = (convert app settings out given w).1 ∧
          g.pool.shared = (convert app settings out given w).2.shared) ∧
      ∀ g, Gathering.Reaches app settings out limit (Gathering.start w (plan app)) g →
        (¬ g.Over → ∃ next, Gathering.Step app settings out limit g next) ∧
        (g.Over → ((∃ failure, g.result (plan app) = .error failure) ↔
          ∃ job ∈ g.pool.jobs, ∃ cause, job.stage = .done (.error cause))) ∧
        (g.Over → (∀ job ∈ g.pool.jobs, ∀ cause, job.stage ≠ .done (.error cause)) →
          g.result (plan app) = .ok ((plan app).map (Task.path out))) ∧
        ∀ failure, g.result (plan app) = .error failure →
          ∃ job ∈ g.pool.jobs, ∃ cause written, job.task ∈ plan app ∧ job.stage = .done (.error cause) ∧
            failure = .conversion (.str job.task.fileName) cause written ∧ written.Pairwise (· < ·) ∧
            (∀ name ∈ written, ∃ done ∈ g.pool.jobs, done.task ∈ plan app ∧ done.task.fileName = name ∧
              done.stage = .done (.ok (done.task.path out)) ∧ g.Wrote app settings out w limit done ∧
              (((plan app).map Task.fileName).Nodup → Complete app settings out done.task g.pool.shared)) ∧
            (((plan app).map Task.fileName).Nodup → job.task.fileName ∉ written) := by
  refine ⟨?_, ?_, ?_⟩
  · rintro ⟨run, _, hrun⟩
    exact Gathering.no_endless_run ⟨run, hrun⟩
  · intro given hworkers
    obtain ⟨g, _, _, hrun⟩ := convert_reaches hworkers app out w
    exact ⟨g, hrun⟩
  · intro g hreach
    have hsound := Gathering.Sound.of_reaches hreach
    exact ⟨Gathering.progress hlimit hsound.handed, fun hover => hsound.error_iff hover, hsound.returned,
      fun failure hfailure => hsound.error hfailure⟩

/-- A conversion of which one task fails, run by a loop with one worker. -/
theorem gathered_torn :
    (some 1 : Option Nat) ≠ some 0 ∧
      ∃ g, Gathering.Reaches torn {} (.ofText "out") (some 1) (Gathering.start tornWorkshop (plan torn)) g ∧ g.Over ∧
        ∃ job ∈ g.pool.jobs, ∃ cause, job.stage = .done (.error cause) := by
  have hlimit : (some 1 : Option Nat) ≠ some 0 := by decide
  obtain ⟨_, hconvert, hruns⟩ := gathered torn {} (.ofText "out") tornWorkshop hlimit
  have hworkers : workersFault (workers {} (.int 1)) = none := by decide
  obtain ⟨g, hreach, hover, hresult, _⟩ := hconvert (.int 1) hworkers
  have hfailed := torn_fails
  rw [← hresult] at hfailed
  refine ⟨hlimit, g, hreach, hover, ((hruns g hreach).2.1 hover).1 ?_⟩
  cases hcase : g.result (plan torn) with
  | error failure => exact ⟨failure, rfl⟩
  | ok paths =>
      rw [hcase] at hfailed
      cases hfailed

end StepForge.Conversion
