import StepForge.Proofs.Command.Converted
import StepForge.Proofs.Command.Reporting
import StepForge.Proofs.Conversion.Reports
import StepForge.Proofs.Text.Numeral

/-!
# `StepForge.Proofs.Command.Endings` — how commands end

A command whose faults are reported ends with the exit code zero or one. What it tells is put between tags, so
where titles, paths and messages are plain, it reports whatever went wrong and nothing escapes. A closing tag
in any of them is refused, and since the fault quotes the tag, the report of that fault is refused as well.

## Contents
- `Request.act?`, `Request.work`, `PlainRequest` — what is done for a request, and what its reports tell.
- `on_convert_told`, `on_initConfig_told` — where all is plain, the reports change nothing.
- `Tells`, `on_act_refused` — a closing tag in what is told.
- `run_ends` — how the commands end.
-/

namespace StepForge.Command

open Console

/-! ## Requests -/

/-- What is done for a request, if its faults are reported. -/
def Request.act? : Request → Option (Act Unit)
  | .convert definition out config workers verbose => some (Command.convert definition out config workers verbose)
  | .initConfig dir => some (Command.initConfig dir)
  | .templates => none
  | .help => none

/-- What comes of a request on a tree, apart from all reports. -/
def Request.work : Request → Tree → Except Fault Unit
  | .convert definition out config workers _, t => do
      let (settings, _) ← Settings.load t config
      let (app, _) ← Definition.loadApp t definition
      (Conversion.convert app settings out (workersGiven workers) ⟨t, Template.Library.standard, []⟩).1.map fun _ => ()
  | .initConfig dir, t => (Settings.writeDefault t dir).2.map fun _ => ()
  | .templates, _ => .ok ()
  | .help, _ => .ok ()

/-- The texts that the reports of a request tell: paths, and the title of an app that is loaded. -/
def Request.told : Request → Tree → List Text
  | .convert definition out config _ _, t =>
      definition.text :: out.text :: config.toList.map Path.text
        ++ ((Definition.loadApp t definition).toOption.map (·.1.title)).toList
  | .initConfig dir, _ => [(dir / Settings.fileName).text]
  | .templates, _ => []
  | .help, _ => []

/-- Whether a text is told as it is. What is said about a malformed YAML stream is a word that stands for another
text, so nothing is said about a fault whose text holds that word. -/
def IsTold (t : Text) : Prop := ¬ Yaml.Fault.malformed.message <:+: t

instance (t : Text) : Decidable (IsTold t) :=
  inferInstanceAs (Decidable (¬ Yaml.Fault.malformed.message <:+: t))

/-- All that the reports of a request tell is plain, the text of the fault that its work ends in included. -/
structure PlainRequest (c : Request) (t : Tree) : Prop where
  told : ∀ text ∈ c.told t, Plain text
  fault : ∀ f, c.work t = .error f → Plain f.text ∧ IsTold f.text

/-- The message stands at the beginning of the text of a fault. -/
theorem message_prefix_text (f : Fault) : f.message <+: f.text := by
  unfold Fault.text suggested
  split
  · exact ⟨_, (List.append_assoc ..).symm⟩
  · exact List.prefix_refl _

/-! ## Conversions -/

section Conversions

variable {definition out : Path} {config : Option Path} {workers : Option Int} {verbose : Bool}
  {settings : Settings} {app : App} {s t : Shell} {message : Text}

/-- What is noted of settings has bytes if their path has. -/
theorem encodable_of_load (h : Settings.load s.tree config = .ok (settings, message))
    (hconfig : ∀ p ∈ config, Encodable p.text) : Encodable message := by
  have hwritten : Encodable (Settings.place config).2 := by
    cases config with
    | none => exact (by decide : Encodable (Settings.workingDirectory ++ '/'.toNat :: Settings.fileName))
    | some p => exact hconfig p rfl
  unfold Settings.load Settings.loadWith at h
  generalize Settings.place config = found at h hwritten
  obtain ⟨p, written⟩ := found
  dsimp only at h
  split at h
  · cases h
  · split at h
    · cases h
      exact encodable_append.2 ⟨encodable_append.2 ⟨encodable_ofString _, encodable_ofString _⟩, encodable_ofString _⟩
    · cases h
  · split at h
    · cases h
    · next bytes _ =>
        cases hread : Settings.ofRead written (Settings.fileValue bytes) with
        | error f =>
            rw [hread] at h
            cases h
        | ok read =>
            rw [hread] at h
            cases h
            exact encodable_append.2 ⟨encodable_ofString _, hwritten⟩

/-- What is noted of an app has bytes if its title and its path have. -/
theorem encodable_of_loadApp (h : Definition.loadApp s.tree definition = .ok (app, message))
    (htitle : Encodable app.title) (hdefinition : Encodable definition.text) : Encodable message := by
  unfold Definition.loadApp at h
  cases hvalue : Definition.load s.tree definition with
  | error f =>
      rw [hvalue] at h
      cases h
  | ok v =>
      rw [hvalue] at h
      change (Definition.appOf v >>= _) = _ at h
      cases happ : Definition.appOf v with
      | error f =>
          rw [happ] at h
          cases h
      | ok made =>
          rw [happ] at h
          cases h
          exact encodable_append.2 ⟨encodable_append.2 ⟨encodable_append.2 ⟨encodable_append.2 ⟨encodable_append.2
            ⟨encodable_ofString _, htitle⟩, encodable_ofString _⟩, encodable_ofNat _⟩, encodable_ofString _⟩, hdefinition⟩

/-- Where what is told is plain, a conversion begins once its settings and its app are loaded. -/
theorem on_begun_told {noteOfApp : Text} (hsettings : Settings.load s.tree config = .ok (settings, message))
    (happ : Definition.loadApp s.tree definition = .ok (app, noteOfApp)) (hmessage : Encodable message)
    (hnote : Encodable noteOfApp) (hname : Plain (conversionName definition app)) (verbose : Bool) (hs : Clear s) :
    ∃ t, on (begun definition config verbose) s = (.ok (settings, app), t) ∧ Clear t := by
  have hlogged : Clear { s with log := some ⟨verbose, false⟩ } := hs
  obtain ⟨t, hsay, ht⟩ :=
    on_say_told (goes_started hname) (clear_noted hnote .debug (clear_noted hmessage .debug hlogged))
  refine ⟨t, ?_, ht⟩
  unfold noted at hsay
  rw [on_begun, hsettings]
  dsimp only
  rw [happ]
  dsimp only
  rw [hsay]

theorem on_reportAll_told {events : List Conversion.Event} (h : ∀ e ∈ events, e.Told) (hs : Clear s) :
    ∃ t, on (reportAll events) s = (.ok (), t) ∧ Clear t := by
  induction events generalizing s with
  | nil => exact ⟨s, rfl, hs⟩
  | cons e events ih =>
      obtain ⟨he, hrest⟩ := List.forall_mem_cons.1 h
      cases e with
      | log r =>
          obtain ⟨t, hreports, ht⟩ := ih hrest (clear_noted he r.level hs)
          exact ⟨t, (on_bind_of_ok (on_note_eq _ _ s)).trans hreports, ht⟩
      | written name =>
          obtain ⟨u, hsay, hu⟩ := on_say_told he hs
          obtain ⟨t, hreports, ht⟩ := ih hrest hu
          exact ⟨t, (on_bind_of_ok hsay).trans hreports, ht⟩

/-- The files of an app are written as they are without reports, if these come out. -/
theorem on_convertFiles_told (workers : Option Int) (hs : Clear s) :
    let r := Conversion.convert app settings out (workersGiven workers) ⟨s.tree, Template.Library.standard, []⟩
    (∀ e ∈ r.2.reports, e.Told) → ∃ t, on (convertFiles app settings out workers) s = (r.1, t) ∧ Clear t := by
  intro r hreports
  have hset : Clear { s with tree := r.2.tree } := hs
  obtain ⟨t, hall, ht⟩ := on_reportAll_told hreports hset
  refine ⟨t, ?_, ht⟩
  rw [on_convertFiles, on_bind_of_ok hall, on_ending]

theorem on_filesWritten_told (workers : Option Int) (hs : Clear s) (hname : Plain (conversionName definition app)) :
    let r := Conversion.convert app settings out (workersGiven workers) ⟨s.tree, Template.Library.standard, []⟩
    (∀ e ∈ r.2.reports, e.Told) → (∀ f, r.1 = .error f → Plain f.text) →
      ∃ t, on (filesWritten definition out workers settings app) s = (r.1, t) ∧ Clear t := by
  intro r hreports hfault
  obtain ⟨u, hfiles, hu⟩ := on_convertFiles_told workers hs hreports
  unfold filesWritten
  rw [on_tryCatch, on_bind, hfiles]
  cases hr : r.1 with
  | ok paths =>
      obtain ⟨t, hsay, ht⟩ := on_say_told (goes_completed hname) hu
      refine ⟨t, ?_, ht⟩
      dsimp only
      rw [on_bind_of_ok hsay]
      rfl
  | error f =>
      obtain ⟨t, hsay, ht⟩ := on_say_told (goes_failed hname (hfault f hr)) hu
      refine ⟨t, ?_, ht⟩
      dsimp only
      rw [on_bind_of_ok hsay]
      rfl

theorem plain_ofNat (n : Nat) : Plain (Text.ofNat n) := by
  refine ⟨untagged_of_no_bracket fun c hc => ?_, encodable_ofNat n⟩
  have hdigit := (Text.digit_of_mem_ofNat hc).2
  rintro rfl
  exact absurd hdigit (by decide)

/-- The reports behind a conversion come out. -/
theorem on_summarized_told (hout : Plain out.text) (app : App) (written : List Path) (hs : Clear s) :
    ∃ t, on (summarized out app written) s = (.ok (), t) ∧ Clear t := by
  have hrows : ∀ e ∈ summaryRows app out written, Plain e.1 ∧ Plain e.2 := by
    simp only [summaryRows, List.forall_mem_cons]
    exact ⟨⟨by decide, plain_ofNat _⟩, ⟨by decide, plain_ofNat _⟩, ⟨by decide, plain_ofNat _⟩,
      ⟨by decide, plain_ofNat _⟩, ⟨by decide, hout⟩, by simp⟩
  have hsteps : ("\n[dim]Next steps:[/dim]" : Text) = ("\n" : Text) ++ (styled "dim" "Next steps:" ++ []) := by decide
  have hnext : Goes "\n[dim]Next steps:[/dim]" := by
    rw [hsteps]
    exact (goes_nil.styled (isStyleName_of_mem (by decide)) (by decide)).behind (by decide) (meets_styled (by decide))
  have hcd : Goes (("  cd " : Text) ++ out.text) := (Plain.append (by decide) hout (Or.inl (by decide))).goes
  have hinstall : Goes "  npm install" := (by decide : Plain "  npm install").goes
  obtain ⟨a, hbox, ha⟩ := on_emit_told (summary_eq_ok (by decide : Plain "Conversion Summary") hrows) hs
  obtain ⟨b, hb, hbClear⟩ := on_say_told hnext ha
  obtain ⟨c, hc, hcClear⟩ := on_say_told hcd hbClear
  obtain ⟨t, ht, htClear⟩ := on_say_told hinstall hcClear
  refine ⟨t, ?_, htClear⟩
  unfold summarized box
  rw [on_bind_of_ok hbox, on_bind_of_ok hb, on_bind_of_ok hc]
  exact ht

theorem plain_conversionName (hdefinition : Plain definition.text) (htitle : Plain app.title) :
    Plain (conversionName definition app) := by
  refine Plain.append (by decide) ?_ (Or.inl (by decide))
  split
  · exact hdefinition.part definition.name_suffix_text.isInfix
  · exact htitle

theorem work_of_settings {f : Fault} (h : Settings.load s.tree config = .error f) :
    (Request.convert definition out config workers verbose).work s.tree = .error f := by
  unfold Request.work
  dsimp only
  rw [h]
  rfl

theorem work_of_app {f : Fault} (hsettings : Settings.load s.tree config = .ok (settings, message))
    (happ : Definition.loadApp s.tree definition = .error f) :
    (Request.convert definition out config workers verbose).work s.tree = .error f := by
  unfold Request.work
  dsimp only
  rw [hsettings, happ]
  rfl

theorem work_of_loaded {noteOfApp : Text} (hsettings : Settings.load s.tree config = .ok (settings, message))
    (happ : Definition.loadApp s.tree definition = .ok (app, noteOfApp)) :
    (Request.convert definition out config workers verbose).work s.tree =
      (Conversion.convert app settings out (workersGiven workers) ⟨s.tree, Template.Library.standard, []⟩).1.map
        fun _ => () := by
  unfold Request.work
  dsimp only
  rw [hsettings, happ]
  rfl

/-- A conversion that has begun ends as its work does, if its reports tell plain texts. -/
theorem on_convert_begun_told {noteOfApp : Text} {u : Shell}
    (hsettings : Settings.load s.tree config = .ok (settings, message))
    (happ : Definition.loadApp s.tree definition = .ok (app, noteOfApp))
    (hbegun : on (begun definition config verbose) s = (.ok (settings, app), u)) (hu : Clear u)
    (hdefinition : Plain definition.text) (htitle : Plain app.title) (hout : Plain out.text)
    (hfault : ∀ f, (Request.convert definition out config workers verbose).work s.tree = .error f → Plain f.text) :
    ∃ t, on (convert definition out config workers verbose) s =
      ((Request.convert definition out config workers verbose).work s.tree, t) ∧ Clear t := by
  have htree : u.tree = s.tree := (on_begun_ok hbegun).1
  have hfault : ∀ f, (Conversion.convert app settings out (workersGiven workers)
      ⟨u.tree, Template.Library.standard, []⟩).1 = .error f → Plain f.text := by
    intro f hf
    refine hfault f ?_
    rw [work_of_loaded hsettings happ, ← htree, hf]
    rfl
  have hmessages : ∀ f, (Conversion.convert app settings out (workersGiven workers)
      ⟨u.tree, Template.Library.standard, []⟩).1 = .error f → Encodable f.message := by
    intro f hf
    exact ((hfault f hf).part (message_prefix_text f).isInfix).encodable
  have hreports := Conversion.convert_told (workersGiven workers) htitle.encodable hout.encodable
    (fun e he => by cases he) hmessages
  obtain ⟨v, hfiles, hv⟩ :=
    on_filesWritten_told workers hu (plain_conversionName hdefinition htitle) hreports hfault
  rw [convert_eq_bind, on_bind_of_ok hbegun, work_of_loaded hsettings happ, ← htree, on_bind, hfiles]
  cases (Conversion.convert app settings out (workersGiven workers) ⟨u.tree, Template.Library.standard, []⟩).1 with
  | error f => exact ⟨v, rfl, hv⟩
  | ok written =>
      obtain ⟨t, hsummary, ht⟩ := on_summarized_told hout app written hv
      exact ⟨t, hsummary, ht⟩

/-- **A conversion whose reports tell plain texts** ends as its work does. -/
theorem on_convert_told (h : PlainRequest (.convert definition out config workers verbose) s.tree) (hs : Clear s) :
    ∃ t, on (convert definition out config workers verbose) s =
      ((Request.convert definition out config workers verbose).work s.tree, t) ∧ Clear t := by
  have hdefinition : Plain definition.text := h.told _ (by simp [Request.told])
  have hout : Plain out.text := h.told _ (by simp [Request.told])
  have hconfig : ∀ p ∈ config, Plain p.text := fun p hp => h.told _ (by
    cases hp
    simp [Request.told])
  have hlogged : Clear { s with log := some ⟨verbose, false⟩ } := hs
  -- Settings, app, files: the first of them that fails is what the work fails with.
  cases hsettings : Settings.load s.tree config with
  | error f =>
      have hbegun := on_begun definition config verbose s
      rw [hsettings] at hbegun
      rw [convert_eq_bind, work_of_settings hsettings]
      exact ⟨_, on_bind_of_error hbegun, hlogged⟩
  | ok read =>
      obtain ⟨settings, message⟩ := read
      have hmessage := encodable_of_load hsettings fun p hp => (hconfig p hp).encodable
      cases happ : Definition.loadApp s.tree definition with
      | error f =>
          have hbegun := on_begun definition config verbose s
          rw [hsettings, happ] at hbegun
          rw [convert_eq_bind, work_of_app hsettings happ]
          exact ⟨_, on_bind_of_error hbegun, clear_noted hmessage .debug hlogged⟩
      | ok made =>
          obtain ⟨app, noteOfApp⟩ := made
          have htitle : Plain app.title := h.told app.title (by simp [Request.told, happ, Except.toOption])
          have hnote := encodable_of_loadApp happ htitle.encodable hdefinition.encodable
          obtain ⟨u, hbegun, hu⟩ := on_begun_told hsettings happ hmessage hnote
            (plain_conversionName hdefinition htitle) verbose hs
          exact on_convert_begun_told hsettings happ hbegun hu hdefinition htitle hout fun f hf => (h.fault f hf).1

/-- A conversion whose beginning cannot be reported ends there. -/
theorem on_convert_refused {noteOfApp : Text} {m : MarkupFault}
    (hsettings : Settings.load s.tree config = .ok (settings, message))
    (happ : Definition.loadApp s.tree definition = .ok (app, noteOfApp))
    (h : printed (startedMarkup (conversionName definition app)) = .error m) (out : Path) (workers : Option Int)
    (verbose : Bool) :
    ∃ t, on (convert definition out config workers verbose) s = (.error (.markup m), t) ∧ t.tree = s.tree := by
  have hbegun := on_begun definition config verbose s
  rw [hsettings, happ] at hbegun
  dsimp only at hbegun
  rw [say, h, on_emit] at hbegun
  refine ⟨_, ?_, (keepsTree_begun definition config verbose).tree_eq hbegun⟩
  rw [convert_eq_bind, on_bind_of_error hbegun]

end Conversions

/-! ## Default settings -/

section DefaultSettings

variable {dir p : Path} {s : Shell}

theorem writeDefault_path (h : (Settings.writeDefault s.tree dir).2 = .ok p) : p = dir / Settings.fileName := by
  unfold Settings.writeDefault at h
  dsimp only at h
  split at h
  · cases h
    rfl
  · cases h
  · cases h
  · cases h

theorem on_initConfig (dir : Path) (s : Shell) :
    on (initConfig dir) s =
      let s' : Shell := { s with tree := (Settings.writeDefault s.tree dir).1 }
      match (Settings.writeDefault s.tree dir).2 with
      | .error f => (.error f, s')
      | .ok p => on (say (("[green]✓ Wrote configuration to " : Text) ++ p.text ++ "[/green]")) s' := by
  unfold initConfig
  rw [on_bind_of_ok (on_get s)]
  rcases Settings.writeDefault s.tree dir with ⟨tree, r⟩
  dsimp only
  rw [on_bind_of_ok (on_set _ s)]
  cases r with
  | error f => rfl
  | ok p => rfl

/-- **Default settings whose path is plain** are written and reported. -/
theorem on_initConfig_told (h : PlainRequest (.initConfig dir) s.tree) (hs : Clear s) :
    ∃ t, on (initConfig dir) s = ((Request.initConfig dir).work s.tree, t) ∧ Clear t := by
  have hwritten : Clear { s with tree := (Settings.writeDefault s.tree dir).1 } := hs
  have hwork : (Request.initConfig dir).work s.tree = (Settings.writeDefault s.tree dir).2.map fun _ => () := rfl
  rw [on_initConfig, hwork]
  cases hr : (Settings.writeDefault s.tree dir).2 with
  | error f => exact ⟨_, rfl, hwritten⟩
  | ok p =>
      have hplain : Plain p.text := h.told _ (by simp [Request.told, writeDefault_path hr])
      have hgoes : Goes (("[green]✓ Wrote configuration to " : Text) ++ p.text ++ "[/green]") :=
        goes_tagged "green" "✓ Wrote configuration to " [] (by decide) (by decide) (by decide)
          ((Plain.append (by decide) hplain (Or.inl (by decide))).append (by decide) (Or.inr (by decide)))
      exact on_say_told hgoes hwritten

end DefaultSettings

/-! ## How commands end -/

/-- The run of a command reported a fault: its exit code is one, nothing escaped, and the report stands on the
screen. -/
def Reports (f : Fault) (r : Ending × Shell) : Prop :=
  r.1 = ⟨1, none⟩ ∧ ∃ text, printed (reportMarkup f) = .ok text ∧ text <:+: r.2.screen.out

/-- A fault of printing escaped from the run of a command. -/
def Escapes (r : Ending × Shell) : Prop := r.1.exit = 1 ∧ ∃ f, r.1.escaped = some f ∧ IsPrinting f

/-- A refused tag escaped from the run of a command. -/
def EscapesByTag (r : Ending × Shell) : Prop := r.1.exit = 1 ∧ ∃ m, r.1.escaped = some (.markup m)

section Endings

variable {act : Act Unit} {s t : Shell} {f : Fault} {x : Text}

theorem handled_of_ok (h : on act s = (.ok (), t)) : (handled act).run s = (⟨0, none⟩, t) := by
  rw [on_handled, h]

/-- **A fault is reported, or a fault of its report escapes.** -/
theorem handled_of_error (h : on act s = (.error f, t)) :
    let r := (handled act).run s
    r.2.tree = t.tree ∧ (Reportable f t.screen ∧ Reports f r ∨ ¬ Reportable f t.screen ∧ Escapes r) := by
  intro r
  refine ⟨(exit_of_error h).2, ?_⟩
  have hr : r = _ := on_handled act s
  rw [h] at hr
  dsimp only at hr
  rcases hreport : on (reportFault f) t with ⟨result, u⟩
  rw [hreport] at hr
  cases result with
  | ok v =>
      obtain ⟨u', text, hok, hprinted, hout⟩ := on_reportFault_of_reportable (reportable_of_on hreport)
      rw [hreport] at hok
      cases hok
      rw [hr]
      exact Or.inl ⟨reportable_of_on hreport, rfl, text, hprinted, hout⟩
  | error g =>
      obtain ⟨hprinting, hnot⟩ := on_reportFault_error hreport
      rw [hr]
      exact Or.inr ⟨hnot, rfl, g, rfl, hprinting⟩

/-- **A closing tag in the message** of a fault escapes with it. -/
theorem handled_of_closesFirst (h : on act s = (.error f, t)) (hx : ClosesFirst x f.message) :
    EscapesByTag ((handled act).run s) := by
  obtain ⟨m, hm⟩ := printed_reportMarkup_refused hx
  obtain ⟨u, hreport⟩ := on_reportFault_refused hm t
  rw [on_handled, h]
  dsimp only
  rw [hreport]
  exact ⟨rfl, m, rfl⟩

end Endings

theorem on_act_told {c : Request} {act : Act Unit} (hact : c.act? = some act) {s : Shell} (h : PlainRequest c s.tree)
    (hs : Clear s) : ∃ t, on act s = (c.work s.tree, t) ∧ Clear t := by
  cases c with
  | convert definition out config workers verbose =>
      cases hact
      exact on_convert_told h hs
  | initConfig dir =>
      cases hact
      exact on_initConfig_told h hs
  | templates => cases hact
  | help => cases hact

theorem perform_of_act {c : Request} {act : Act Unit} (hact : c.act? = some act) : perform c = handled act := by
  cases c with
  | convert definition out config workers verbose =>
      cases hact
      rfl
  | initConfig dir =>
      cases hact
      rfl
  | templates => cases hact
  | help => cases hact

/-- A request on a tree tells a text between the tags of a style, and behind that the tree is another one. -/
inductive Tells (t : Tree) : Request → (style text : Text) → (after : Tree) → Prop
  | convert {definition out : Path} {config : Option Path} {workers : Option Int} {verbose : Bool}
      {settings : Settings} {app : App} {message noteOfApp : Text}
      (hsettings : Settings.load t config = .ok (settings, message))
      (happ : Definition.loadApp t definition = .ok (app, noteOfApp)) :
      Tells t (.convert definition out config workers verbose) "bold blue"
        (if app.title.isEmpty then definition.name else app.title) t
  | initConfig {dir p : Path} {tree : Tree} (h : Settings.writeDefault t dir = (tree, .ok p)) :
      Tells t (.initConfig dir) "green" p.text tree

/-- **A closing tag in what is told** is refused, with the fault that quotes it. -/
theorem on_act_refused {c : Request} {act : Act Unit} (hact : c.act? = some act) {s : Shell} {style text x other : Text}
    {after : Tree} (htells : Tells s.tree c style text after) (hx : ClosesFirst x text) (hnames : NamesStyle x other)
    (hother : style ≠ other) :
    ∃ place t, on act s = (.error (.markup (.unmatched (closingTag x) place)), t) ∧ t.tree = after := by
  cases htells with
  | @convert definition out config workers verbose settings app message noteOfApp hsettings happ =>
      cases hact
      have hname : ClosesFirst x (conversionName definition app) := hx.behind (by decide) (by decide) (by decide)
      obtain ⟨place, hrefused⟩ :=
        printed_tagged_refused "bold blue" (by decide) (by decide : ("[bold blue]" : Text) = _) hname hnames hother
          "...[/bold blue]"
      obtain ⟨t, hon, htree⟩ := on_convert_refused hsettings happ hrefused out workers verbose
      exact ⟨place, t, hon, htree⟩
  | @initConfig dir p tree h =>
      cases hact
      have hlead : ClosesFirst x (("✓ Wrote configuration to " : Text) ++ p.text) :=
        hx.behind (by decide) (by decide) (by decide)
      obtain ⟨place, hrefused⟩ :=
        printed_tagged_refused "green" (by decide) (by decide : ("[green]" : Text) = _) hlead hnames hother
          "[/green]"
      have hfront : ("[green]✓ Wrote configuration to " : Text) =
          ("[green]" : Text) ++ ("✓ Wrote configuration to " : Text) := by decide
      rw [← List.append_assoc, ← hfront] at hrefused
      refine ⟨place, { s with tree := after }, ?_, rfl⟩
      rw [on_initConfig, h]
      dsimp only
      rw [say, hrefused, on_emit]

/-- **How the commands end.** A command whose faults are reported ends well with the exit code zero, or in a fault
with the exit code one. Then the report of the fault stands on the screen, or it could not be printed and the
fault of printing escapes; nothing else ever escapes. Where all that is told is plain, nothing escapes, and the
exit code is zero exactly if the work is done. But a closing tag in the message of a fault always escapes, and so
does one in the title of an app or in a path that is told, before anything is written or after it.

What a reader of YAML says about a malformed stream is not known here. Of a fault that tells of such a stream only
the exit code and the tree are stated: whether its report stands on the screen or escapes is left open, as `IsTold`
fails for its text. -/
theorem run_ends {words : List Text} {c : Request} {act : Act Unit} (hparse : parse words = some c)
    (hnull : (c.paths.any fun p => p.names.any (·.contains 0)) = false) (hact : c.act? = some act) (s : Shell) :
    let r := (run words).run s
    (r.1 = ⟨0, none⟩ ∧ on act s = (.ok (), r.2) ∨
      ∃ f t, on act s = (.error f, t) ∧ r.1.exit = 1 ∧ r.2.tree = t.tree ∧
        (IsTold f.text → Reportable f t.screen ∧ Reports f r ∨ ¬ Reportable f t.screen ∧ Escapes r) ∧
        ∀ x, ClosesFirst x f.message → EscapesByTag r) ∧
    (PlainRequest c s.tree → Clear s →
      (c.work s.tree = .ok () → r.1 = ⟨0, none⟩) ∧ ∀ f, c.work s.tree = .error f → Reports f r) ∧
    ∀ style text after x other, Tells s.tree c style text after → ClosesFirst x text → NamesStyle x other →
      style ≠ other → EscapesByTag r ∧ r.2.tree = after := by
  intro r
  have hrun : r = (handled act).run s :=
    congrArg (·.run s) ((run_of_parse hparse hnull).trans (perform_of_act hact))
  rw [hrun]
  refine ⟨?_, ?_, ?_⟩
  · rcases hon : on act s with ⟨result, t⟩
    cases result with
    | ok u =>
        rw [handled_of_ok hon]
        exact Or.inl ⟨rfl, rfl⟩
    | error f =>
        obtain ⟨htree, hcases⟩ := handled_of_error hon
        refine Or.inr ⟨f, t, rfl, ?_, htree, fun _ => hcases, fun x hx => handled_of_closesFirst hon hx⟩
        rcases hcases with ⟨_, hreports, _⟩ | ⟨_, hescapes⟩
        · rw [hreports]
        · exact hescapes.1
  · intro hplain hs
    obtain ⟨t, hon, ht⟩ := on_act_told hact hplain hs
    refine ⟨fun hwork => ?_, fun f hwork => ?_⟩
    · rw [hwork] at hon
      rw [handled_of_ok hon]
    · rw [hwork] at hon
      obtain ⟨_, ⟨_, hreports⟩ | ⟨hnot, _⟩⟩ := handled_of_error hon
      · exact hreports
      · exact absurd (reportable_of_plain (hplain.fault f hwork).1 ht) hnot
  · intro style text after x other htells hx hnames hother
    obtain ⟨place, t, hon, htree⟩ := on_act_refused hact htells hx hnames hother
    have hmessage := closesFirst_unmatched hx.1 place
    exact ⟨handled_of_closesFirst hon hmessage, (handled_of_error hon).1.trans htree⟩

/-- An app in whose title a tag is closed that was never opened. -/
def brokenTitle : Tree :=
  Template.withFile Tree.empty (.ofText "app.json") "\x7b\"general\": \x7b\"title\": \"[/x]\"\x7d\x7d"

/-- The words that convert it. -/
def convertApp : List Text := ["convert", "app.json", "out"]

/-- The same conversion, as it is asked for. -/
def conversion : Request := .convert (.ofText "app.json") (.ofText "out") none none false

/-- Where there is no definition, the fault of the conversion is plain. -/
theorem work_missing : ∃ f, conversion.work Tree.empty = .error f ∧ Plain f.text ∧ IsTold f.text := by
  have hfault : ∃ f ∈ (match conversion.work Tree.empty with
      | .error f => some f
      | .ok _ => none), Plain f.text ∧ IsTold f.text := by decide +kernel
  cases hwork : conversion.work Tree.empty with
  | error f =>
      rw [hwork] at hfault
      obtain ⟨g, ⟨⟩, hplain⟩ := hfault
      exact ⟨f, rfl, hplain⟩
  | ok u =>
      rw [hwork] at hfault
      obtain ⟨g, ⟨⟩, _⟩ := hfault

/-- And so is all else that is told of it. -/
theorem plainRequest_missing : PlainRequest conversion Tree.empty where
  told := by
    have hmissing : (Definition.loadApp Tree.empty (.ofText "app.json")).toOption.map (·.1.title) = none := by
      decide +kernel
    show ∀ text ∈ Path.text (.ofText "app.json") :: Path.text (.ofText "out") :: [] ++
      ((Definition.loadApp Tree.empty (.ofText "app.json")).toOption.map (·.1.title)).toList, Plain text
    rw [hmissing]
    decide +kernel
  fault := by
    intro f hf
    obtain ⟨g, hg, hplain⟩ := work_missing
    rw [hf] at hg
    cases hg
    exact hplain

/-- The conversion of that app ends in a fault of the tag which nothing catches, and nothing is written. Where there
is no definition, the fault is reported. -/
theorem run_ends_brokenTitle :
    ∃ c act, parse convertApp = some c ∧ (c.paths.any fun p => p.names.any (·.contains 0)) = false ∧
      c.act? = some act ∧
      (EscapesByTag ((run convertApp).run ⟨brokenTitle, Screen.blank, none⟩) ∧
        ((run convertApp).run ⟨brokenTitle, Screen.blank, none⟩).2.tree = brokenTitle) ∧
      ∃ f, c.work Tree.empty = .error f ∧ Reports f ((run convertApp).run ⟨Tree.empty, Screen.blank, none⟩) := by
  have hparse : parse convertApp = some conversion := rfl
  have hnull : (conversion.paths.any fun p => p.names.any (·.contains 0)) = false := by decide
  refine ⟨_, _, hparse, hnull, rfl, ?_, ?_⟩
  · have hread : (Settings.load brokenTitle none).isOk = true := by decide +kernel
    have htitle : (Definition.loadApp brokenTitle (.ofText "app.json")).toOption.map (·.1.title) =
        some ("[/x]" : Text) := by decide +kernel
    obtain ⟨_, _, htag⟩ := run_ends hparse hnull rfl ⟨brokenTitle, Screen.blank, none⟩
    cases hsettings : Settings.load brokenTitle none with
    | error f =>
        rw [hsettings] at hread
        cases hread
    | ok read =>
        cases happ : Definition.loadApp brokenTitle (.ofText "app.json") with
        | error f =>
            rw [happ] at htitle
            cases htitle
        | ok made =>
            rw [happ] at htitle
            have heq : made.1.title = "[/x]" := Option.some.inj htitle
            refine htag _ _ _ "x" "x" (.convert hsettings happ) ?_ ⟨by decide +kernel, by decide +kernel⟩ (by decide)
            rw [heq]
            exact ⟨by decide, [], [], by decide, by decide, by decide⟩
  · obtain ⟨_, hplain, _⟩ := run_ends hparse hnull rfl ⟨Tree.empty, Screen.blank, none⟩
    obtain ⟨f, hwork, _⟩ := work_missing
    exact ⟨f, hwork, (hplain plainRequest_missing of_nil).2 f hwork⟩

end StepForge.Command
