import StepForge.Conversion.Run
import StepForge.Proofs.Console.Printing
import StepForge.Proofs.Conversion.Confinement

/-!
# `StepForge.Proofs.Conversion.Reports` — what is reported while a conversion runs

A conversion reports the files it has written, and writes log records that name the app, the output directory
and, if it fails, the fault. The names of files are never at fault: whatever the keys of the steps are, the
reports of their files can be told. Log records can be told if what they name has bytes.

## Contents
- `Event.Told` — reports that can be told.
- `plain_fileName`, `encodable_path` — the names and paths of planned files.
- `runTask_told`, `runTasks_told`, `convert_told` — a task, tasks one after another, a conversion.
-/

namespace StepForge.Conversion

open Console

/-- A report that can be told: a log record that has bytes, whose tags are not looked at, or a file whose name
can be shown. -/
def Event.Told : Event → Prop
  | .log r => Encodable r.message
  | .written name => Goes (writtenMarkup name)

/-! ## Planned files -/

section Files

variable {app : App} {settings : Settings} {out : Path} {task : Task} {tasks : List Task}

theorem encodable_snakeCase (key : Text) : Encodable (Naming.snakeCase key) := by
  intro c hc
  have hsafe := Naming.isSafe_snakeCase key c hc
  unfold Naming.isSafe at hsafe
  rw [Bool.and_eq_true] at hsafe
  exact hsafe.2

theorem encodable_stepName (key : Text) : Encodable (stepName key) :=
  encodable_append.2 ⟨encodable_snakeCase key, encodable_ofString _⟩

theorem encodable_directory (c : Category) : Encodable c.directory := by cases c <;> decide

/-- **The name of a planned file** can be part of any report. -/
theorem plain_fileName (htask : task ∈ plan app) : Plain task.fileName := by
  rcases mem_plan.1 htask with ⟨c, key, s, _, rfl⟩ | rfl | rfl
  · refine ⟨untagged_of_no_bracket fun d hd => (stepFileName_plain c key d hd).1.1, ?_⟩
    show Encodable (Generate.stepFileName c key)
    rw [stepFileName_parts]
    exact encodable_append.2 ⟨encodable_append.2 ⟨encodable_append.2 ⟨encodable_directory c, encodable_ofString _⟩,
      encodable_snakeCase key⟩, encodable_ofString _⟩
  · exact (by decide : Plain "index.js")
  · exact (by decide : Plain "package.json")

/-- One name more has bytes if it and the path do. -/
theorem encodable_below {p : Path} {n : Text} (hp : Encodable p.text) (hn : Encodable n) :
    Encodable (p.below n).text := by
  obtain ⟨front, htext, hfront⟩ := p.text_below n
  have hslash : Encodable (p.text ++ ("/" : Text)) := encodable_append.2 ⟨hp, encodable_ofString _⟩
  rw [htext]
  exact encodable_append.2 ⟨hslash.subset hfront.subset, hn⟩

/-- The path of a planned file has bytes if that of the output directory has. -/
theorem encodable_path (htask : task ∈ plan app) (hout : Encodable out.text) : Encodable (task.path out).text := by
  rcases mem_plan.1 htask with ⟨c, key, s, _, rfl⟩ | rfl | rfl
  · show Encodable (out / Generate.stepFileName c key).text
    rw [div_stepFileName]
    exact encodable_below (encodable_below hout (encodable_directory c)) (encodable_stepName key)
  · show Encodable (out / ("index.js" : Text)).text
    rw [div_index]
    exact encodable_below hout (encodable_ofString _)
  · show Encodable (out / ("package.json" : Text)).text
    rw [div_manifest]
    exact encodable_below hout (encodable_ofString _)

/-! ## Tasks -/

/-- **What a task reports** can be told. -/
theorem runTask_told (htask : task ∈ plan app) (settings : Settings) (hout : Encodable out.text) {w : Workshop}
    (h : ∀ e ∈ w.events, e.Told) : ∀ e ∈ (runTask app settings out task w).2.events, e.Told := by
  unfold runTask
  rcases task.artifact.render app settings w.tree w.library with ⟨r, library⟩
  cases r with
  | error f => exact h
  | ok text =>
      dsimp only
      unfold writeFile
      dsimp only
      cases (w.tree.writeText (out / task.fileName) text).result with
      | error f => exact h
      | ok u =>
          have hpath : Encodable (out / task.fileName).text := encodable_path htask hout
          refine List.forall_mem_cons.2 ⟨goes_written (plain_fileName htask), List.forall_mem_cons.2 ⟨?_, h⟩⟩
          exact encodable_append.2 ⟨encodable_append.2 ⟨encodable_append.2 ⟨encodable_append.2
            ⟨encodable_ofString _, hpath⟩, encodable_ofString _⟩, encodable_ofNat _⟩, encodable_ofString _⟩

/-- What tasks report one after another can be told. -/
theorem runTasks_told (hplan : ∀ task ∈ tasks, task ∈ plan app) (settings : Settings) (hout : Encodable out.text)
    {w : Workshop} (h : ∀ e ∈ w.events, e.Told) : ∀ e ∈ (runTasks app settings out tasks w).2.events, e.Told := by
  induction tasks generalizing w with
  | nil => exact h
  | cons task tasks ih =>
      have htold := runTask_told (hplan task List.mem_cons_self) settings hout h
      unfold runTasks
      generalize runTask app settings out task w = ran at htold ⊢
      obtain ⟨r, u⟩ := ran
      cases r with
      | error f => exact htold
      | ok p => exact ih (fun t ht => hplan t (List.mem_cons_of_mem task ht)) htold

/-! ## Conversions -/

/-- **What a conversion reports** can be told if the title, the path of the output directory and the message of
the fault, if there is one, have bytes. -/
theorem convert_told (given : Value) {w : Workshop} (htitle : Encodable app.title) (hout : Encodable out.text)
    (h : ∀ e ∈ w.events, e.Told) (hfault : ∀ f, (convert app settings out given w).1 = .error f → Encodable f.message) :
    ∀ e ∈ (convert app settings out given w).2.reports, e.Told := by
  have hbegin : ∀ e ∈ (w.note .info (("Converting '" : Text) ++ app.title ++ "': " ++ Text.ofNat (plan app).length
      ++ " files into " ++ out.text)).events, e.Told :=
    List.forall_mem_cons.2 ⟨encodable_append.2 ⟨encodable_append.2 ⟨encodable_append.2 ⟨encodable_append.2
      ⟨encodable_append.2 ⟨encodable_ofString _, htitle⟩, encodable_ofString _⟩, encodable_ofNat _⟩,
      encodable_ofString _⟩, hout⟩, h⟩
  have hreverse : ∀ {u : Workshop}, (∀ e ∈ u.events, e.Told) → ∀ e ∈ u.reports, e.Told :=
    fun hu e he => hu e (List.mem_reverse.1 he)
  unfold convert at hfault ⊢
  dsimp only at hfault ⊢
  cases hworkers : workersFault (workers settings given) with
  | some f => exact hreverse hbegin
  | none =>
      have hplan : ∀ task ∈ plan app, task ∈ plan app := fun _ ht => ht
      have htasks := runTasks_told hplan settings hout hbegin
      rw [hworkers] at hfault
      dsimp only at hfault ⊢
      generalize runTasks app settings out (plan app) _ = ran at hfault htasks ⊢
      obtain ⟨outcomes, u⟩ := ran
      dsimp only at hfault htasks ⊢
      cases hcollect : collect [] outcomes with
      | ok done => exact hreverse htasks
      | error f =>
          rw [hcollect] at hfault
          dsimp only at hfault ⊢
          split
          · next name cause written =>
              have hmessage : Encodable (Fault.conversion name cause written).message := hfault _ rfl
              refine hreverse (List.forall_mem_cons.2 ⟨?_, htasks⟩)
              exact (encodable_append.1 hmessage).1
          · exact hreverse htasks

end Files

end StepForge.Conversion
