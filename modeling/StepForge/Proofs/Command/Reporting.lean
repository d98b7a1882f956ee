import StepForge.Proofs.Command.Acts
import StepForge.Proofs.Console.Printing

/-!
# `StepForge.Proofs.Command.Reporting` — faults that can be reported

Printing fails for tags that are refused and for text without bytes, and for nothing else. A fault is reported
with its text between tags, so whether it can be reported depends on that text: plain text always comes out, and
one closing tag in the message is always refused, since no tag is open where it stands.

## Contents
- `on_emit_ok`, `on_emit_error`, `IsPrinting` — how printing ends.
- `reportMarkup`, `Reportable`, `on_reportFault_of_reportable` — when a fault can be reported.
- `reportable_of_plain`, `printed_reportMarkup_refused` — faults that can be reported, and faults that cannot.
-/

namespace StepForge.Command

open Console

/-! ## Printing -/

/-- A fault of printing. -/
def IsPrinting : Fault → Prop
  | .markup _ => True
  | .encoding _ => True
  | _ => False

/-- A shell behind whose screen nothing without bytes is left. -/
def Clear (s : Shell) : Prop := Encodable s.screen.behind

/-- The shell behind a text that went out, with all that had stayed behind. -/
def said (s : Shell) (text : Text) : Shell :=
  { s with screen := ⟨s.screen.out ++ (s.screen.behind ++ text), []⟩ }

/-- The shell behind a log record. -/
def noted (level : Level) (message : Text) (s : Shell) : Shell := (on (note level message) s).2

theorem clear_said (s : Shell) (text : Text) : Clear (said s text) := of_nil

theorem infix_said (s : Shell) (text : Text) : text <:+: (said s text).screen.out :=
  ⟨s.screen.out ++ s.screen.behind, [], by simp [said]⟩

theorem on_note_eq (level : Level) (message : Text) (s : Shell) :
    on (note level message) s = (.ok (), noted level message s) := rfl

section Printing

variable {s t : Shell}

theorem on_emit_ok {text : Text} (h : Encodable (s.screen.behind ++ text)) :
    on (emit (.ok text)) s = (.ok (), said s text) := by
  rw [on_emit]
  dsimp only
  rw [Screen.print_encodable h]
  rfl

/-- **Printing fails** for tags, or for text without bytes. -/
theorem on_emit_error {r : Except MarkupFault Text} {f : Fault} (h : on (emit r) s = (.error f, t)) : IsPrinting f := by
  rw [on_emit] at h
  cases r with
  | error g =>
      cases h
      exact trivial
  | ok text =>
      dsimp only at h
      cases hprint : (s.screen.print text).2 with
      | ok u =>
          rw [hprint] at h
          cases h
      | error g =>
          rw [hprint] at h
          cases h
          exact trivial

/-- A text is printed if its tags are taken and it has bytes, with all that stayed behind. -/
theorem on_emit_ok_iff {r : Except MarkupFault Text} :
    (∃ t, on (emit r) s = (.ok (), t)) ↔ ∃ text, r = .ok text ∧ Encodable (s.screen.behind ++ text) := by
  constructor
  · rintro ⟨t, h⟩
    rw [on_emit] at h
    cases r with
    | error g => cases h
    | ok text =>
        refine ⟨text, rfl, ?_⟩
        by_contra hnot
        obtain ⟨g, hprint⟩ := Screen.print_error hnot
        dsimp only at h
        rw [hprint] at h
        cases h
  · rintro ⟨text, rfl, h⟩
    exact ⟨_, on_emit_ok h⟩

/-- What comes out is printed, and the shell behind it is clear. -/
theorem on_emit_told {r : Except MarkupFault Text} (h : ∃ text, r = .ok text ∧ Encodable text) (hs : Clear s) :
    ∃ t, on (emit r) s = (.ok (), t) ∧ Clear t := by
  obtain ⟨text, rfl, htext⟩ := h
  exact ⟨_, on_emit_ok (encodable_append.2 ⟨hs, htext⟩), clear_said s text⟩

theorem on_say_told {markup : Text} (h : Goes markup) (hs : Clear s) :
    ∃ t, on (say markup) s = (.ok (), t) ∧ Clear t := on_emit_told h.printed hs

/-- A log record with bytes changes nothing about what can be printed behind it. -/
theorem encodable_behind_noted {message : Text} (h : Encodable message) (level : Level) (s : Shell) (text : Text) :
    Encodable ((noted level message s).screen.behind ++ text) ↔ Encodable (s.screen.behind ++ text) := by
  unfold noted
  rw [on_note]
  cases s.log with
  | none => exact Iff.rfl
  | some l =>
      dsimp only
      unfold Screen.log
      split
      · have hrecord := encodable_recordText (r := ⟨level, message⟩) h (!l.started)
        by_cases hbehind : Encodable s.screen.behind
        · rw [Screen.print_encodable (encodable_append.2 ⟨hbehind, hrecord⟩)]
          show Encodable text ↔ _
          exact ⟨fun ht => encodable_append.2 ⟨hbehind, ht⟩, fun ht => (encodable_append.1 ht).2⟩
        · have hnot : ∀ t, ¬ Encodable (s.screen.behind ++ t) := fun t ht => hbehind (encodable_append.1 ht).1
          obtain ⟨g, hprint⟩ := Screen.print_error (hnot _)
          rw [hprint]
          constructor
          · intro ht
            exact absurd (encodable_append.1 ht).1 (hnot _)
          · intro ht
            exact absurd ht (hnot _)
      · exact Iff.rfl

theorem clear_noted {message : Text} (h : Encodable message) (level : Level) (hs : Clear s) :
    Clear (noted level message s) := by
  have hiff := encodable_behind_noted h level s []
  rw [List.append_nil, List.append_nil] at hiff
  exact hiff.2 hs

end Printing

/-! ## Reports of faults -/

/-- What is printed of a fault, as a text with tags. -/
def reportMarkup (f : Fault) : Text :=
  if f.isOwn then f.markupText else ("[red]Unexpected error:[/red] " : Text) ++ f.text

/-- The report of a fault comes out on a screen: its tags are taken, and it has bytes. -/
def Reportable (f : Fault) (screen : Screen) : Prop :=
  ∃ text, printed (reportMarkup f) = .ok text ∧ Encodable (screen.behind ++ text)

/-- What is said behind an unexpected fault. -/
theorem goes_bugReport : Goes ("\n[yellow]This may be a bug. Please report it.[/yellow]" : Text) := by
  have heq : ("\n[yellow]This may be a bug. Please report it.[/yellow]" : Text) =
      ("\n" : Text) ++ (styled "yellow" "This may be a bug. Please report it." ++ []) := by decide
  rw [heq]
  exact (goes_nil.styled (isStyleName_of_mem (by decide)) (by decide)).behind (by decide) (meets_styled (by decide))

section Faults

variable {f : Fault} {s t : Shell}

theorem reportMarkup_own (h : f.isOwn = true) : reportMarkup f = f.markupText := by
  unfold reportMarkup
  rw [if_pos h]

theorem reportMarkup_other (h : f.isOwn = false) :
    reportMarkup f = ("[red]Unexpected error:[/red] " : Text) ++ f.text := by
  unfold reportMarkup
  rw [h]
  rfl

theorem reportFault_own (h : f.isOwn = true) : reportFault f = say (reportMarkup f) := by
  unfold reportFault
  rw [if_pos h, reportMarkup_own h]

theorem reportFault_other (h : f.isOwn = false) :
    reportFault f = note .error "Unexpected error" >>= fun _ => say (reportMarkup f) >>= fun _ =>
      say "\n[yellow]This may be a bug. Please report it.[/yellow]" := by
  unfold reportFault
  rw [h, reportMarkup_other h]
  rfl

/-- **A fault is reported** if its report comes out; the report then stands on the screen. -/
theorem on_reportFault_of_reportable (h : Reportable f s.screen) :
    ∃ t text, on (reportFault f) s = (.ok (), t) ∧ printed (reportMarkup f) = .ok text ∧ text <:+: t.screen.out := by
  obtain ⟨text, hprinted, hencodable⟩ := h
  cases hown : f.isOwn with
  | true =>
      refine ⟨said s text, text, ?_, hprinted, infix_said s text⟩
      rw [reportFault_own hown, say, hprinted]
      exact on_emit_ok hencodable
  | false =>
      -- A record goes out in front; what it leaves behind has bytes if what was there has.
      have hnoted := (encodable_behind_noted (encodable_ofString "Unexpected error") .error s text).2 hencodable
      obtain ⟨more, hmore, hmoreForm⟩ := goes_bugReport.printed
      have hlast : Encodable ((said (noted .error "Unexpected error" s) text).screen.behind ++ more) := hmoreForm
      refine ⟨said (said (noted .error "Unexpected error" s) text) more, text, ?_, hprinted, ?_⟩
      · rw [reportFault_other hown, on_bind_of_ok (on_note_eq _ _ s), say, hprinted, on_bind_of_ok (on_emit_ok hnoted),
          say, hmore]
        exact on_emit_ok hlast
      · exact (infix_said (noted .error "Unexpected error" s) text).trans ⟨[], more, by simp [said]⟩

/-- **A fault that is no report** is a fault of printing, and then its report does not come out. -/
theorem on_reportFault_error {g : Fault} (h : on (reportFault f) s = (.error g, t)) :
    IsPrinting g ∧ ¬ Reportable f s.screen := by
  refine ⟨?_, fun hreportable => ?_⟩
  · cases hown : f.isOwn with
    | true =>
        rw [reportFault_own hown] at h
        exact on_emit_error h
    | false =>
        rw [reportFault_other hown, on_bind_of_ok (on_note_eq _ _ s), on_bind] at h
        rcases hsay : on (say (reportMarkup f)) (noted .error "Unexpected error" s) with ⟨r, u⟩
        rw [hsay] at h
        cases r with
        | error e =>
            cases h
            exact on_emit_error hsay
        | ok v => exact on_emit_error h
  · obtain ⟨u, text, hok, _⟩ := on_reportFault_of_reportable hreportable
    rw [h] at hok
    cases hok

/-- A fault whose report came out could be reported. -/
theorem reportable_of_on (h : on (reportFault f) s = (.ok (), t)) : Reportable f s.screen := by
  cases hown : f.isOwn with
  | true =>
      rw [reportFault_own hown] at h
      exact on_emit_ok_iff.1 ⟨t, h⟩
  | false =>
      rw [reportFault_other hown, on_bind_of_ok (on_note_eq _ _ s)] at h
      obtain ⟨_, u, hsay, _⟩ := on_bind_ok h
      obtain ⟨text, hprinted, hencodable⟩ := on_emit_ok_iff.1 ⟨u, hsay⟩
      exact ⟨text, hprinted, (encodable_behind_noted (encodable_ofString _) .error s text).1 hencodable⟩

/-! ## Texts of faults -/

/-- Only faults of the library have a suggestion. -/
theorem text_of_other (h : f.isOwn = false) : f.text = f.message := by
  cases f with
  | general m s => cases h
  | definition path details => cases h
  | configuration m s => cases h
  | settings details => cases h
  | generation m s => cases h
  | template name home => cases h
  | conversion name cause written => cases h
  | file g => rfl
  | encoding g => rfl
  | decoding g => rfl
  | rendering g => rfl
  | lookup g => rfl
  | yaml g => rfl
  | json g => rfl
  | markup g => rfl
  | value g => rfl
  | parts g => rfl
  | noWorkers => rfl
  | raised kind args => rfl

/-- The label of a fault of the library, and that of any other one. -/
theorem ownLabel_eq : ("[red]Error:[/red] " : Text) = styled "red" "Error:" ++ (" " : Text) := by decide

theorem otherLabel_eq : ("[red]Unexpected error:[/red] " : Text) = styled "red" "Unexpected error:" ++ (" " : Text) := by
  decide

/-- A suggestion is printed below the message. -/
theorem suggestionMarkup_eq (suggestion : Text) :
    ("\n\n[yellow]" : Text) ++ suggestion ++ ("[/yellow]" : Text) = ("\n\n" : Text) ++ (styled "yellow" suggestion ++ []) := by
  have hopen : ("\n\n[yellow]" : Text) = ("\n\n" : Text) ++ '['.toNat :: (("yellow" : Text) ++ [']'.toNat]) := by decide
  have hclose : ("[/yellow]" : Text) = '['.toNat :: '/'.toNat :: (("yellow" : Text) ++ [']'.toNat]) := by decide
  rw [hopen, hclose, styled]
  simp

theorem goes_markupText (h : Plain f.text) : Goes f.markupText := by
  have hblank : ∀ {t : Text}, Plain t → Plain ((" " : Text) ++ t) := fun ht =>
    Plain.append (by decide) ht (Or.inl (by decide))
  unfold Fault.text suggested at h
  unfold Fault.markupText
  rw [ownLabel_eq, List.append_assoc, List.append_assoc]
  refine Goes.styled ?_ (isStyleName_of_mem (by decide)) (by decide)
  split at h
  · next htruthy =>
      have hmessage : Plain f.message := h.part ⟨[], ("\n\nSuggestion: " : Text) ++ f.suggestion.display, by simp⟩
      have hsuggestion : Plain f.suggestion.display := h.part ⟨f.message ++ ("\n\nSuggestion: " : Text), [], by simp⟩
      rw [if_pos htruthy, suggestionMarkup_eq, ← List.append_assoc, ← List.append_assoc]
      exact (goes_nil.styled (isStyleName_of_mem (by decide)) hsuggestion).behind
        ((hblank hmessage).append (by decide) (Or.inr (by decide))) (meets_styled (closed_append (by decide) (by decide)))
  · next htruthy =>
      rw [if_neg htruthy, List.append_nil]
      exact (hblank h).goes

/-- **A fault with plain text** can be reported. -/
theorem reportable_of_plain (h : Plain f.text) {screen : Screen} (hs : Encodable screen.behind) :
    Reportable f screen := by
  have hgoes : Goes (reportMarkup f) := by
    cases hown : f.isOwn with
    | false =>
        rw [reportMarkup_other hown, otherLabel_eq, List.append_assoc]
        exact (Plain.append (by decide) h (Or.inl (by decide))).goes.styled (isStyleName_of_mem (by decide)) (by decide)
    | true =>
        rw [reportMarkup_own hown]
        exact goes_markupText h
  obtain ⟨text, hprinted, hencodable⟩ := hgoes.printed
  exact ⟨text, hprinted, encodable_append.2 ⟨hs, hencodable⟩⟩

/-- **A closing tag in the message** of a fault is refused, whatever stands around it. -/
theorem printed_reportMarkup_refused {x : Text} (h : ClosesFirst x f.message) :
    ∃ m, printed (reportMarkup f) = .error m := by
  have hred : ("red" : Text) ∈ reportStyles := by decide
  have hblank : ClosesFirst x ((" " : Text) ++ f.message) := h.behind (by decide) (by decide) (by decide)
  cases hown : f.isOwn with
  | false =>
      have hrefused := printed_labelled_refused "Unexpected error:" hred (by decide) rfl hblank []
      rw [reportMarkup_other hown, text_of_other hown, otherLabel_eq]
      simpa only [List.append_nil, List.append_assoc] using hrefused
  | true =>
      rw [reportMarkup_own hown]
      unfold Fault.markupText
      rw [ownLabel_eq]
      generalize (if f.suggestion.isTruthy then ("\n\n[yellow]" : Text) ++ f.suggestion.display ++ "[/yellow]"
        else []) = rest
      have hrefused := printed_labelled_refused "Error:" hred (by decide) rfl hblank rest
      simpa only [List.append_assoc] using hrefused

/-- A report that is refused leaves a fault of its tags behind. -/
theorem on_reportFault_refused {m : MarkupFault} (h : printed (reportMarkup f) = .error m) (s : Shell) :
    ∃ t, on (reportFault f) s = (.error (.markup m), t) := by
  have hsay : ∀ s, on (say (reportMarkup f)) s = (.error (.markup m), s) := by
    intro s
    rw [say, h, on_emit]
  cases hown : f.isOwn with
  | true =>
      rw [reportFault_own hown]
      exact ⟨s, hsay s⟩
  | false =>
      rw [reportFault_other hown, on_bind_of_ok (on_note_eq _ _ s), on_bind_of_error (hsay _)]
      exact ⟨_, rfl⟩

end Faults

end StepForge.Command
