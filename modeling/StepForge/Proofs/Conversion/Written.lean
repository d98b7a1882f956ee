import StepForge.Proofs.Conversion.Collecting
import StepForge.Proofs.Conversion.Rendering

/-!
# `StepForge.Proofs.Conversion.Written` — what a conversion leaves behind

Tasks run one after another. Behind some of them a tree holds, under each of their names, the bytes of the
last one of that name; the directories that lead there; and else what it held at first. One task more
preserves this (`Written.runTask`), so a whole run leaves exactly this behind (`Written.runTasks`).

## Contents
- `Ready` — what is asked of a tree and a library before a conversion.
- `lastNamed`, `Written` — what is left behind by some tasks.
- `Touches` — what one step of a task can do to a tree.
- `Written.concat`, `Written.runTask`, `Written.runTasks` — one file, one task, and a run.
- `convert_leaves` — a whole conversion, and a second one.
-/

namespace StepForge.Conversion

/-- A workshop in which all planned files can be rendered and written. -/
structure Ready (app : App) (settings : Settings) (out : Path) (w : Workshop) : Prop where
  canWrite : ∀ task ∈ plan app, w.tree.CanWrite (task.path out)
  bytes : ∀ task ∈ plan app, ∃ bytes,
    task.artifact.bytes app settings w.tree w.library = .ok bytes

/-- The last of some tasks under a name. -/
def lastNamed (tasks : List Task) (name : Text) : Option Task :=
  tasks.reverse.find? fun task => task.fileName = name

theorem lastNamed_append (tasks : List Task) (task : Task) (name : Text) :
    lastNamed (tasks ++ [task]) name = if task.fileName = name then some task else lastNamed tasks name := by
  unfold lastNamed
  rw [List.reverse_append, List.reverse_singleton, List.singleton_append, List.find?_cons]
  by_cases h : task.fileName = name <;> simp [h]

theorem mem_of_lastNamed {tasks : List Task} {name : Text} {task : Task}
    (h : lastNamed tasks name = some task) : task ∈ tasks ∧ task.fileName = name := by
  unfold lastNamed at h
  refine ⟨?_, ?_⟩
  · simpa using List.mem_of_find?_eq_some h
  · simpa using List.find?_some h

/-- A task that is there has a last one under its name. -/
theorem exists_lastNamed {tasks : List Task} {task : Task} (h : task ∈ tasks) :
    ∃ last, lastNamed tasks task.fileName = some last := by
  cases hlast : lastNamed tasks task.fileName with
  | some last => exact ⟨last, rfl⟩
  | none =>
      unfold lastNamed at hlast
      rw [List.find?_eq_none] at hlast
      exact absurd (decide_eq_true (rfl : task.fileName = task.fileName))
        (hlast task (List.mem_reverse.2 h))

/-- **What some planned tasks leave behind** in a tree. -/
structure Written (app : App) (settings : Settings) (out : Path) (w : Workshop) (done : List Task)
    (t : Tree) : Prop where
  planned : ∀ a ∈ done, a ∈ plan app
  files : ∀ name last, lastNamed done name = some last →
    ∃ bytes, last.artifact.bytes app settings w.tree w.library = .ok bytes ∧
      t.at? (last.place out) = some (.file bytes)
  dirs : ∀ a ∈ done, ∀ l ∈ (a.path out).ancestors, t.at? l = some .dir
  rest : ∀ l, (∀ a ∈ done, l ≠ a.place out ∧ l ∉ (a.path out).ancestors) → t.at? l = w.tree.at? l

/-- What a step of a task can do to a tree. -/
structure Touches (out : Path) (task : Task) (t u : Tree) : Prop where
  dirs : t.DirsKept u
  ancestors : ∀ l ∈ (task.path out).ancestors, u.at? l = t.at? l ∨ u.at? l = some .dir
  elsewhere : ∀ l, l ∉ (task.path out).ancestors → l ≠ task.place out → u.at? l = t.at? l
  notDir : u.at? (task.place out) ≠ some .dir

section Run

variable {app : App} {settings : Settings} {out : Path} {w v : Workshop} {done : List Task} {t : Tree}

theorem Written.nil (app : App) (settings : Settings) (out : Path) (w : Workshop) :
    Written app settings out w [] w.tree where
  planned a ha := by simp at ha
  files name last h := by simp [lastNamed] at h
  dirs a ha := by simp at ha
  rest l _ := rfl

theorem Ready.notMem_ancestors (h : Ready app settings out w) {a b : Task} (ha : a ∈ plan app)
    (hb : b ∈ plan app) : a.place out ∉ (b.path out).ancestors :=
  place_notMem_ancestors ha hb (h.canWrite a ha).outside

/-- Where a task is done, the bytes of a file stand. -/
theorem Written.file_of_mem (h : Written app settings out w done t) {a : Task} (ha : a ∈ done) :
    ∃ bytes, t.at? (a.place out) = some (.file bytes) := by
  obtain ⟨last, hlast⟩ := exists_lastNamed ha
  obtain ⟨hmem, hname⟩ := mem_of_lastNamed hlast
  obtain ⟨bytes, _, hfile⟩ := h.files _ last hlast
  refine ⟨bytes, ?_⟩
  rw [← (place_eq_iff (h.planned last hmem) (h.planned a ha)).2 hname]
  exact hfile

/-- Behind some tasks the other ones can still write their files, and so can the same ones again. -/
theorem Written.canWrite (h : Written app settings out w done t) (hready : Ready app settings out w)
    {b : Task} (hb : b ∈ plan app) : t.CanWrite (b.path out) := by
  refine (hready.canWrite b hb).of_view ?_ ?_
  · intro l hl
    by_cases hdir : ∃ a ∈ done, l ∈ (a.path out).ancestors
    · obtain ⟨a, ha, hal⟩ := hdir
      exact Or.inr (h.dirs a ha l hal)
    · refine Or.inl (h.rest l fun a ha => ⟨?_, fun hal => hdir ⟨a, ha, hal⟩⟩)
      rintro rfl
      exact hready.notMem_ancestors (h.planned a ha) hb hl
  · by_cases hsame : ∃ a ∈ done, a.place out = b.place out
    · obtain ⟨a, ha, hplace⟩ := hsame
      obtain ⟨bytes, hfile⟩ := h.file_of_mem ha
      show t.at? (b.place out) ≠ some .dir
      rw [← hplace, hfile]
      simp
    · have hrest : t.at? (b.place out) = w.tree.at? (b.place out) := by
        refine h.rest _ fun a ha => ⟨fun heq => hsame ⟨a, ha, heq.symm⟩, ?_⟩
        exact hready.notMem_ancestors hb (h.planned a ha)
      show t.at? (b.place out) ≠ some .dir
      rw [hrest]
      exact (hready.canWrite b hb).notDir

/-- Behind some tasks all directories are there, and all files elsewhere. -/
theorem Written.grows (h : Written app settings out w done t) (hready : Ready app settings out w) :
    w.tree.Grows (places app out) t where
  dirs l hl := by
    by_cases hdir : ∃ a ∈ done, l ∈ (a.path out).ancestors
    · obtain ⟨a, ha, hal⟩ := hdir
      exact h.dirs a ha l hal
    · rw [h.rest l fun a ha => ⟨?_, fun hal => hdir ⟨a, ha, hal⟩⟩]
      · exact hl
      · rintro rfl
        exact (hready.canWrite a (h.planned a ha)).notDir hl
  files l hl bytes hfile := by
    rw [h.rest l fun a ha => ⟨?_, ?_⟩]
    · exact hfile
    · rintro rfl
      exact hl (mem_places (h.planned a ha))
    · intro hal
      exact (hready.canWrite a (h.planned a ha)).not_file hal bytes hfile

/-- A file is written with the directories that lead to it. -/
theorem Touches.of_written {task : Task} {bytes : List UInt8} {u : Tree} (hcan : t.CanWrite (task.path out))
    (hview : u.at? = withFile (task.place out) bytes (withDirs (task.path out).ancestors t.at?)) :
    Touches out task t u where
  dirs l hl := by
    have hne : l ≠ task.place out := by
      rintro rfl
      exact hcan.notDir hl
    rw [hview, withFile_of_ne hne]
    unfold withDirs
    split
    · rfl
    · exact hl
  ancestors l hl := by
    have hne : l ≠ task.place out := by
      rintro rfl
      exact hcan.outside hl
    rw [hview, withFile_of_ne hne, withDirs_of_mem hl]
    exact Or.inr rfl
  elsewhere l hanc hne := by rw [hview, withFile_of_ne hne, withDirs_of_notMem hanc]
  notDir := by
    rw [hview, withFile_self]
    simp

/-- A step of a task keeps the files at other places. -/
theorem Touches.grows {task : Task} {u : Tree} (h : Touches out task t u) (htask : task ∈ plan app)
    (hcan : t.CanWrite (task.path out)) : t.Grows (places app out) u where
  dirs := h.dirs
  files l hl bytes hfile := by
    have hne : l ≠ task.place out := by
      rintro rfl
      exact hl (mem_places htask)
    have hanc : l ∉ (task.path out).ancestors := fun hanc => hcan.not_file hanc bytes hfile
    rw [h.elsewhere l hanc hne]
    exact hfile

/-- A task whose file can be rendered and written ends well. -/
theorem runTask_ok {task : Task} {text : Text} {bytes : List UInt8}
    (hcan : v.tree.CanWrite (task.path out))
    (htext : (task.artifact.render app settings v.tree v.library).1 = .ok text)
    (hbytes : Utf8.encode text = .ok bytes) :
    (runTask app settings out task v).1 = .ok (task.path out) ∧
      (runTask app settings out task v).2.library =
        (task.artifact.render app settings v.tree v.library).2 ∧
      (runTask app settings out task v).2.tree.at? =
        withFile (task.place out) bytes (withDirs (task.path out).ancestors v.tree.at?) := by
  obtain ⟨hok, hview⟩ := hcan.writeText hbytes
  have hresult : (v.tree.writeText (out / task.fileName) text).result = .ok () := hok
  unfold runTask
  simp only [htext, writeFile, hresult]
  exact ⟨rfl, rfl, hview⟩

/-- **One file more** is left behind with the directories that lead to it. A file that was there stays, unless
it has the same name; then the new one is the last of this name. -/
theorem Written.concat (h : Written app settings out w done t) (hready : Ready app settings out w)
    {task : Task} (htask : task ∈ plan app) {bytes : List UInt8}
    (hbytes : task.artifact.bytes app settings w.tree w.library = .ok bytes) {u : Tree}
    (hview : u.at? = withFile (task.place out) bytes (withDirs (task.path out).ancestors t.at?)) :
    Written app settings out w (done ++ [task]) u := by
  have hplanned : ∀ a ∈ done ++ [task], a ∈ plan app := by
    intro a ha
    rcases List.mem_append.1 ha with ha | ha
    · exact h.planned a ha
    · exact List.mem_singleton.1 ha ▸ htask
  refine ⟨hplanned, ?_, ?_, ?_⟩
  · intro name last hlast
    rw [lastNamed_append] at hlast
    split at hlast
    · cases hlast
      refine ⟨bytes, hbytes, ?_⟩
      rw [hview, withFile_self]
    · next hname =>
        obtain ⟨hmem, hlastName⟩ := mem_of_lastNamed hlast
        have hplan := h.planned last hmem
        obtain ⟨old, hold, hfile⟩ := h.files name last hlast
        have hne : last.place out ≠ task.place out := by
          intro heq
          exact hname (((place_eq_iff hplan htask).1 heq).symm.trans hlastName)
        refine ⟨old, hold, ?_⟩
        rw [hview, withFile_of_ne hne, withDirs_of_notMem (hready.notMem_ancestors hplan htask)]
        exact hfile
  · intro a ha l hl
    have hne : l ≠ task.place out := by
      rintro rfl
      exact hready.notMem_ancestors htask (hplanned a ha) hl
    rw [hview, withFile_of_ne hne]
    by_cases hanc : l ∈ (task.path out).ancestors
    · rw [withDirs_of_mem hanc]
    · rw [withDirs_of_notMem hanc]
      rcases List.mem_append.1 ha with ha | ha
      · exact h.dirs a ha l hl
      · exact absurd (List.mem_singleton.1 ha ▸ hl) hanc
  · intro l hl
    obtain ⟨hne, hanc⟩ := hl task (by simp)
    rw [hview, withFile_of_ne hne, withDirs_of_notMem hanc]
    exact h.rest l fun a ha => hl a (List.mem_append_left _ ha)

/-- **One task more**: it ends well, and what is left behind includes its file. -/
theorem Written.runTask (h : Written app settings out w done v.tree) (hready : Ready app settings out w)
    (hsteady : Steady w.tree w.library v.tree v.library) {task : Task} (htask : task ∈ plan app) :
    (Conversion.runTask app settings out task v).1 = .ok (task.path out) ∧
      Written app settings out w (done ++ [task]) (Conversion.runTask app settings out task v).2.tree ∧
      Steady w.tree w.library (Conversion.runTask app settings out task v).2.tree
        (Conversion.runTask app settings out task v).2.library := by
  -- The task is rendered as it would have been at first, so its bytes are those that were asked for.
  obtain ⟨bytes, hbytes⟩ := hready.bytes task htask
  obtain ⟨text, htext, hcode⟩ := Artifact.bytes_eq_ok_iff.1 (hsteady.bytes hbytes)
  have hcan := h.canWrite hready htask
  obtain ⟨hok, hlibrary, hview⟩ := runTask_ok hcan htext hcode
  refine ⟨hok, h.concat hready htask hbytes hview, ?_⟩
  rw [hlibrary]
  exact (hsteady.render task.artifact).grow ((Touches.of_written hcan hview).grows htask hcan)

/-- **A run of tasks**: all of them end well, and what is left behind includes all their files. -/
theorem Written.runTasks {tasks : List Task} (h : Written app settings out w done v.tree)
    (hready : Ready app settings out w) (hsteady : Steady w.tree w.library v.tree v.library)
    (hplan : ∀ task ∈ tasks, task ∈ plan app) :
    (Conversion.runTasks app settings out tasks v).1 =
        tasks.map (fun task => (task.fileName, .ok (task.path out))) ∧
      Written app settings out w (done ++ tasks) (Conversion.runTasks app settings out tasks v).2.tree ∧
      Steady w.tree w.library (Conversion.runTasks app settings out tasks v).2.tree
        (Conversion.runTasks app settings out tasks v).2.library := by
  induction tasks generalizing done v with
  | nil =>
      rw [List.append_nil]
      exact ⟨rfl, h, hsteady⟩
  | cons task tasks ih =>
      obtain ⟨hok, hwritten, hsteady'⟩ := h.runTask hready hsteady (hplan task (by simp))
      obtain ⟨houtcomes, hrest, hlast⟩ :=
        ih hwritten hsteady' fun a ha => hplan a (List.mem_cons_of_mem task ha)
      rw [List.append_assoc, List.singleton_append] at hrest
      unfold Conversion.runTasks
      simp only [hok, List.map_cons]
      exact ⟨by rw [houtcomes], hrest, hlast⟩

end Run

/-- What is left behind by the same tasks is the same, whether the templates were read before or not, and
whether the tasks ran before or not. -/
theorem Written.view_eq {app : App} {settings : Settings} {out : Path} {w v : Workshop}
    {done : List Task} {t u : Tree} (h : Written app settings out w done t)
    (k : Written app settings out v done u) (hsteady : Steady w.tree w.library v.tree v.library)
    (hrest : ∀ l, (∀ a ∈ done, l ≠ a.place out ∧ l ∉ (a.path out).ancestors) →
      v.tree.at? l = w.tree.at? l) : u.at? = t.at? := by
  funext l
  by_cases hfile : ∃ a ∈ done, l = a.place out
  · obtain ⟨a, ha, rfl⟩ := hfile
    obtain ⟨last, hlast⟩ := exists_lastNamed ha
    obtain ⟨hmem, hname⟩ := mem_of_lastNamed hlast
    obtain ⟨bytes, hbytes, htfile⟩ := h.files _ last hlast
    obtain ⟨others, hothers, hufile⟩ := k.files _ last hlast
    rw [hsteady.bytes hbytes] at hothers
    cases hothers
    rw [(place_eq_iff (h.planned a ha) (h.planned last hmem)).2 hname.symm, htfile, hufile]
  · by_cases hdir : ∃ a ∈ done, l ∈ (a.path out).ancestors
    · obtain ⟨a, ha, hl⟩ := hdir
      rw [h.dirs a ha l hl, k.dirs a ha l hl]
    · have hoff : ∀ a ∈ done, l ≠ a.place out ∧ l ∉ (a.path out).ancestors :=
        fun a ha => ⟨fun hl => hfile ⟨a, ha, hl⟩, fun hl => hdir ⟨a, ha, hl⟩⟩
      rw [h.rest l hoff, k.rest l hoff, hrest l hoff]

/-! ## A whole conversion -/

section Convert

variable {app : App} {settings : Settings} {out : Path} {given : Value} {w : Workshop}

/-- A conversion with a possible number of workers returns the planned paths, and leaves behind what all
planned tasks do. -/
theorem convert_written (hworkers : workersFault (workers settings given) = none)
    (hready : Ready app settings out w) :
    (convert app settings out given w).1 = .ok ((plan app).map (Task.path out)) ∧
      Written app settings out w (plan app) (convert app settings out given w).2.tree ∧
      Steady w.tree w.library (convert app settings out given w).2.tree
        (convert app settings out given w).2.library := by
  unfold convert
  simp only [hworkers]
  -- The note in front of the run changes neither the tree nor the library.
  generalize hnoted : Workshop.note w _ _ = noted
  have htree : noted.tree = w.tree := by rw [← hnoted]; rfl
  have hlibrary : noted.library = w.library := by rw [← hnoted]; rfl
  have hstart : Written app settings out w [] noted.tree := htree ▸ Written.nil app settings out w
  have hsteady : Steady w.tree w.library noted.tree noted.library := by
    rw [htree, hlibrary]
    exact Steady.refl _ _
  have hplan : ∀ task ∈ plan app, task ∈ plan app := fun _ h => h
  obtain ⟨houtcomes, hwritten, hlast⟩ := hstart.runTasks hready hsteady hplan
  have hall : ∀ o ∈ (runTasks app settings out (plan app) noted).1, o.2 = .ok (out / o.1) := by
    rw [houtcomes]
    intro o ho
    obtain ⟨task, _, rfl⟩ := List.mem_map.1 ho
    rfl
  have hnames : ∀ task ∈ plan app,
      task.fileName ∈ (runTasks app settings out (plan app) noted).1.map (·.1) := by
    rw [houtcomes]
    intro task htask
    rw [List.map_map]
    exact List.mem_map_of_mem htask
  obtain ⟨collected, hcollect, hpaths⟩ := paths_collect hall hnames
  simp only [hcollect]
  exact ⟨by rw [hpaths], hwritten, hlast⟩

/-- **What a conversion leaves behind.** With one worker, whatever the app and the tree, if the planned files
can be rendered and written: the paths of the planned files are returned in planning order; each of these
files holds the bytes of the last task under its name; the output directory, the directories that lead to
it, and the directories of the categories that have a step are there; and whatever stands elsewhere is what
stood there before. So a second run, with the templates as they were or as they were read, changes nothing. -/
theorem convert_leaves (hone : workers settings given = .int 1) (hready : Ready app settings out w) :
    let after := (convert app settings out given w).2
    (convert app settings out given w).1 = .ok ((plan app).map fun task => out / task.fileName) ∧
      (∀ task ∈ plan app, ∃ last bytes, lastNamed (plan app) task.fileName = some last ∧
        last.artifact.bytes app settings w.tree w.library = .ok bytes ∧
        after.tree.at? (out / task.fileName).place = some (.file bytes)) ∧
      (∀ l ∈ out.trail, after.tree.at? l = some .dir) ∧
      (∀ c key s, (c, key, s) ∈ app.stepList → after.tree.at? (stepDirectory out c) = some .dir) ∧
      (∀ l, (∀ task ∈ plan app, l ≠ (out / task.fileName).place) → l ∉ out.trail →
        (∀ c key s, (c, key, s) ∈ app.stepList → l ≠ stepDirectory out c) →
        after.tree.at? l = w.tree.at? l) ∧
      ∀ again : Workshop, again.tree = after.tree →
        again.library = w.library ∨ again.library = after.library →
        (convert app settings out given again).1 = (convert app settings out given w).1 ∧
          (convert app settings out given again).2.tree.at? = after.tree.at? := by
  have hworkers : workersFault (workers settings given) = none := by
    rw [hone]
    decide
  intro after
  obtain ⟨hpaths, hwritten, hsteady⟩ := convert_written hworkers hready
  have hindex : ⟨"index.js", .index⟩ ∈ plan app := mem_plan.2 (Or.inr (Or.inl rfl))
  refine ⟨hpaths, ?_, ?_, ?_, ?_, ?_⟩
  · intro task htask
    obtain ⟨last, hlast⟩ := exists_lastNamed htask
    obtain ⟨hmem, hname⟩ := mem_of_lastNamed hlast
    obtain ⟨bytes, hbytes, hfile⟩ := hwritten.files _ last hlast
    refine ⟨last, bytes, hlast, hbytes, ?_⟩
    show after.tree.at? (task.place out) = _
    rw [(place_eq_iff htask hmem).2 hname.symm]
    exact hfile
  · intro l hl
    exact hwritten.dirs _ hindex l (trail_subset_ancestors hindex hl)
  · intro c key s hmem
    refine hwritten.dirs _ (mem_plan.2 (Or.inl ⟨c, key, s, hmem, rfl⟩)) _ ?_
    show _ ∈ (out / Generate.stepFileName c key).ancestors
    rw [ancestors_stepFileName]
    simp
  · intro l hplace htrail hdirs
    refine hwritten.rest l fun task htask => ⟨hplace task htask, ?_⟩
    intro hanc
    rcases mem_ancestors_planned htask hanc with hl | ⟨c, key, s, hmem, hl⟩
    · exact htrail hl
    · exact hdirs c key s hmem hl
  · intro again htree hlibrary
    have hagain : Steady w.tree w.library again.tree again.library := by
      rw [htree]
      rcases hlibrary with hlibrary | hlibrary
      · rw [hlibrary]
        exact (Steady.refl w.tree w.library).grow (hwritten.grows hready)
      · rw [hlibrary]
        exact hsteady
    have hreadyAgain : Ready app settings out again := by
      refine ⟨?_, ?_⟩
      · intro task htask
        rw [htree]
        exact hwritten.canWrite hready htask
      · intro task htask
        obtain ⟨bytes, hbytes⟩ := hready.bytes task htask
        exact ⟨bytes, hagain.bytes hbytes⟩
    obtain ⟨hpathsAgain, hwrittenAgain, _⟩ := convert_written hworkers hreadyAgain
    refine ⟨hpathsAgain.trans hpaths.symm, ?_⟩
    refine hwritten.view_eq hwrittenAgain hagain fun l hoff => ?_
    rw [htree]
    exact hwritten.rest l hoff

end Convert

/-- Two steps whose keys have the same words, so that they share a file. -/
def twins : App where
  title := "Twins"
  description := []
  triggers := [("a", ⟨"a", [], []⟩), ("a!", ⟨"a!", [], []⟩)]
  searches := []
  actions := []

/-- A tree with templates, and with files from before in the output directory. -/
def usedTree : Tree :=
  [(("t/trigger.js.j2" : Text), ("\x7b\x7b noun \x7d\x7d" : Text)),
   ("t/index.js.j2", "\x7b\x7b requires \x7d\x7d"),
   ("t/package.json.j2", "\x7b\x7b name \x7d\x7d"),
   ("out/triggers/a.js", "stale"),
   ("out/notes.txt", "kept")].foldl (fun t file => (t.writeText (.ofText file.1) file.2).tree) Tree.empty

def usedWorkshop : Workshop := ⟨usedTree, .ofHome (.directory (.ofText "t")), []⟩

theorem exists_bytes {app : App} {settings : Settings} {w : Workshop}
    (h : (plan app).all (fun task =>
      (task.artifact.bytes app settings w.tree w.library).toOption.isSome) = true) :
    ∀ task ∈ plan app, ∃ bytes, task.artifact.bytes app settings w.tree w.library = .ok bytes := by
  intro task htask
  have hsome := List.all_eq_true.1 h task htask
  cases hbytes : task.artifact.bytes app settings w.tree w.library with
  | ok bytes => exact ⟨bytes, rfl⟩
  | error fault =>
      rw [hbytes] at hsome
      cases hsome

theorem twins_ready : Ready twins {} (.ofText "out") usedWorkshop where
  canWrite := by decide +kernel
  bytes := exists_bytes (by decide +kernel)

/-- A conversion in a directory that was used before, with two steps of one file. -/
theorem convert_leaves_used :
    workers {} (.int 1) = .int 1 ∧ Ready twins {} (.ofText "out") usedWorkshop ∧
      (convert twins {} (.ofText "out") (.int 1) usedWorkshop).1 =
        .ok ((plan twins).map fun task => Path.ofText "out" / task.fileName) :=
  ⟨rfl, twins_ready, (convert_leaves rfl twins_ready).1⟩

end StepForge.Conversion
