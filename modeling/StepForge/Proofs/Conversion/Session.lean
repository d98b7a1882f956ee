import Mathlib.Data.List.Induction
import StepForge.Proofs.Conversion.Loading

/-!
# `StepForge.Proofs.Conversion.Session` — a store of templates in use

A store is asked for templates, for texts made of them, for paths and for lists of names, while anyone may change the
files below it. However templates are compiled and rendered, all that a request can do to the store is to let it
read one more template. So a template that was read once is the same in every later answer, and it was made of what
stood in its file when a request for it succeeded for the first time. What else a text says can still change: a
rendering may read further templates by their names, as they stand then.

## Contents
- `Request`, `Reply`, `Session.answer` — one request, and what it leaves behind.
- `Session.given`, `reply_load`, `reply_render` — what a name gives at a moment, and what is answered.
- `answer_cases` — all that a request can do.
- `exists_first_of_known` — where a template that is known came from.
- `session_pins` — what can be relied on in a whole session.
-/

namespace StepForge.Conversion

open Template

/-! ## Sessions -/

/-- A store in use, and the files at that moment. -/
structure Session (α : Type) where
  tree : Tree
  store : Store α

/-- What can happen: a store is asked for something, or the files are changed, in whatever way. -/
inductive Request where
  | load (name : Value)
  | render (name values : Value)
  | path (name : Value)
  | list
  | change (files : Tree)

/-- What is answered. -/
inductive Reply (α : Type) where
  | template (r : Except Fault α)
  | text (r : Except Fault Text)
  | path (r : Except Fault Text)
  | names (r : Except Fault (List Text))
  | changed

namespace Request

/-- Whether a request loads the template of a name. -/
def Asks (n : Text) : Request → Prop
  | load v => lookupName v = .ok n
  | render v _ => lookupName v = .ok n
  | _ => False

/-- Whether a request is a change of files. -/
def IsChange : Request → Prop
  | change _ => True
  | _ => False

end Request

namespace Session

variable {α : Type}

/-- A store that has read nothing. -/
def start (home : Home) (t : Tree) : Session α := ⟨t, .ofHome home⟩

section Answers

variable (engine : Engine α)

/-- The answer to a request, and the session behind it. -/
def answer (s : Session α) : Request → Reply α × Session α
  | .load name =>
      let (r, l) := engine.loadNamed s.tree s.store name
      (.template r, { s with store := l })
  | .render name values =>
      let (r, l) := engine.fillNamed s.tree s.store name values
      (.text r, { s with store := l })
  | .path name =>
      (.path do
        let n ← name.pathName.mapError .value
        (s.store.path s.tree n).mapError loadFault, s)
  | .list => (.names ((s.store.names s.tree).mapError .file), s)
  | .change files => (.changed, { s with tree := files })

/-- The session behind requests, one after another. -/
def after (s : Session α) (requests : List Request) : Session α :=
  requests.foldl (fun s r => (s.answer engine r).2) s

@[simp] theorem after_nil (s : Session α) : s.after engine [] = s := rfl

@[simp] theorem after_cons (s : Session α) (r : Request) (requests : List Request) :
    s.after engine (r :: requests) = (s.answer engine r).2.after engine requests := rfl

theorem after_append (s : Session α) (requests more : List Request) :
    s.after engine (requests ++ more) = (s.after engine requests).after engine more := List.foldl_append

/-- What a name gives at this moment. -/
def given (s : Session α) (n : Text) : Except Fault α := (engine.load s.tree s.store n).1

/-- What a template makes of the values of a mapping at this moment. -/
def made (s : Session α) (a : α) (values : Value) : Except Fault Text :=
  engine.rendered (s.store.home.source s.tree) a values

/-- A name loads the same template in this session and behind all further requests, and its texts are made
of that. -/
def Pins (s : Session α) (n : Text) (a : α) : Prop :=
  ∀ later values, ((s.after engine later).answer engine (.load (.str n))).1 = .template (.ok a) ∧
    ((s.after engine later).answer engine (.render (.str n) values)).1 =
      .text ((s.after engine later).made engine a values)

end Answers

/-- Whether the store has read the template of a name. -/
def Knows (s : Session α) (n : Text) (a : α) : Prop := s.store.known.lookup n = some a

end Session

theorem lookupName_eq_ok_iff {v : Value} {n : Text} : lookupName v = .ok n ↔ v = .str n := by
  unfold lookupName
  constructor
  · intro h
    split at h
    · cases v with
      | str t =>
          cases h
          rfl
      | _ => cases h
    · cases h
  · rintro rfl
    rfl

theorem Engine.loadNamed_str {α : Type} (engine : Engine α) (t : Tree) (l : Store α) (n : Text) :
    engine.loadNamed t l (.str n) = engine.load t l n := by
  unfold loadNamed
  rw [lookupName_eq_ok_iff.2 rfl]

namespace Session

variable {α : Type} {engine : Engine α}

/-! ## What a name gives -/

theorem given_of_known {s : Session α} {n : Text} {a : α} (h : s.Knows n a) : s.given engine n = .ok a :=
  load_eq_ok_iff.2 (Or.inl h)

theorem given_of_unknown {s : Session α} {n : Text} (h : s.store.known.lookup n = none) :
    s.given engine n = (s.store.home.template engine.compile s.tree n).mapError loadFault := by
  unfold given
  cases htemplate : s.store.home.template engine.compile s.tree n with
  | error f => exact loadFails_of_template h htemplate
  | ok a => rw [Engine.load_of_ok (Store.load_eq_ok_iff.2 (Or.inr ⟨h, htemplate, rfl⟩))]; rfl

/-- A name that loads is answered with what it gives. -/
theorem reply_load (s : Session α) (n : Text) :
    (s.answer engine (.load (.str n))).1 = .template (s.given engine n) := by
  show Reply.template (engine.loadNamed s.tree s.store (.str n)).1 = _
  rw [Engine.loadNamed_str]
  rfl

/-- A name that renders is answered with what is made of what it gives. -/
theorem reply_render (s : Session α) (n : Text) (values : Value) :
    (s.answer engine (.render (.str n) values)).1 =
      .text ((s.given engine n).bind fun a => s.made engine a values) := by
  show Reply.text (engine.fillNamed s.tree s.store (.str n) values).1 = _
  rw [Engine.fillNamed_eq, Engine.loadNamed_str]
  rfl

/-! ## One request -/

/-- Loading and rendering leave the same behind, whatever becomes of the text. -/
theorem answer_of_asks {s : Session α} {r : Request} {n : Text} (h : r.Asks n) :
    (s.answer engine r).2 = ⟨s.tree, (engine.load s.tree s.store n).2⟩ := by
  cases r with
  | load v =>
      obtain rfl := lookupName_eq_ok_iff.1 h
      show Session.mk s.tree (engine.loadNamed s.tree s.store (.str n)).2 = _
      rw [Engine.loadNamed_str]
  | render v values =>
      obtain rfl := lookupName_eq_ok_iff.1 h
      show Session.mk s.tree (engine.fillNamed s.tree s.store (.str n) values).2 = _
      rw [Engine.fillNamed_eq, Engine.loadNamed_str]
  | path v => exact h.elim
  | list => exact h.elim
  | change files => exact h.elim

/-- A name that gives nothing leaves everything as it was. -/
theorem answer_of_error {s : Session α} {r : Request} {n : Text} {f : Fault} (h : r.Asks n)
    (hgiven : s.given engine n = .error f) : (s.answer engine r).2 = s := by
  rw [answer_of_asks h]
  unfold given at hgiven
  cases hload : s.store.load engine.compile s.tree n with
  | error g => rw [Engine.load_of_error hload]
  | ok found =>
      rw [Engine.load_of_ok hload] at hgiven
      cases hgiven

/-- A name that gives something is known from then on. -/
theorem knows_of_asks {s : Session α} {r : Request} {n : Text} {a : α} (h : r.Asks n)
    (hgiven : s.given engine n = .ok a) : (s.answer engine r).2.Knows n a := by
  rw [answer_of_asks h]
  unfold given at hgiven
  cases hload : s.store.load engine.compile s.tree n with
  | error f =>
      rw [Engine.load_of_error hload] at hgiven
      cases hgiven
  | ok found =>
      rw [Engine.load_of_ok hload] at hgiven ⊢
      cases hgiven
      exact Store.lookup_of_load hload

/-- **All that a request can do**: nothing, a change of files, or one more template that is known. -/
theorem answer_cases (engine : Engine α) (s : Session α) (r : Request) :
    (s.answer engine r).2 = s ∨ (∃ files, r = .change files ∧ (s.answer engine r).2 = ⟨files, s.store⟩) ∨
      ∃ n a, r.Asks n ∧ s.store.known.lookup n = none ∧ s.store.home.template engine.compile s.tree n = .ok a ∧
        (s.answer engine r).2 = ⟨s.tree, ⟨s.store.home, (n, a) :: s.store.known⟩⟩ := by
  have hasks : ∀ n, r.Asks n → (s.answer engine r).2 = s ∨
      ∃ a, s.store.known.lookup n = none ∧ s.store.home.template engine.compile s.tree n = .ok a ∧
        (s.answer engine r).2 = ⟨s.tree, ⟨s.store.home, (n, a) :: s.store.known⟩⟩ := by
    intro n hn
    rw [answer_of_asks hn]
    rcases Engine.load_store engine s.tree s.store n with hsame | ⟨a, hload⟩
    · rw [hsame]
      exact Or.inl rfl
    · rcases Store.load_eq_ok_iff.1 hload with ⟨-, hsame⟩ | ⟨hnone, htemplate, hafter⟩
      · rw [hsame]
        exact Or.inl rfl
      · rw [hafter]
        exact Or.inr ⟨a, hnone, htemplate, rfl⟩
  -- A name that is no text is refused before the store is looked at.
  have hname : ∀ v, (∃ n, lookupName v = .ok n) ∨ ∀ t l, (engine.loadNamed t l v).2 = l := by
    intro v
    cases hv : lookupName v with
    | ok n => exact Or.inl ⟨n, rfl⟩
    | error f =>
        refine Or.inr fun t l => ?_
        unfold Engine.loadNamed
        rw [hv]
  cases r with
  | load v =>
      rcases hname v with ⟨n, hn⟩ | hsame
      · exact (hasks n hn).imp_right fun ⟨a, h⟩ => Or.inr ⟨n, a, hn, h⟩
      · refine Or.inl ?_
        show Session.mk s.tree (engine.loadNamed s.tree s.store v).2 = s
        rw [hsame]
  | render v values =>
      rcases hname v with ⟨n, hn⟩ | hsame
      · exact (hasks n hn).imp_right fun ⟨a, h⟩ => Or.inr ⟨n, a, hn, h⟩
      · refine Or.inl ?_
        show Session.mk s.tree (engine.fillNamed s.tree s.store v values).2 = s
        rw [Engine.fillNamed_eq, hsame]
  | path v => exact Or.inl rfl
  | list => exact Or.inl rfl
  | change files => exact Or.inr (Or.inl ⟨files, rfl, rfl⟩)

theorem home_answer (s : Session α) (r : Request) : (s.answer engine r).2.store.home = s.store.home := by
  rcases answer_cases engine s r with h | ⟨files, _, h⟩ | ⟨n, a, _, _, _, h⟩
  · rw [h]
  · rw [h]
  · rw [h]

/-- What is known stays known. -/
theorem Knows.answer {s : Session α} {n : Text} {a : α} (h : s.Knows n a) (r : Request) :
    (s.answer engine r).2.Knows n a := by
  rcases answer_cases engine s r with heq | ⟨files, _, heq⟩ | ⟨other, read, _, hnone, _, heq⟩
  · rw [heq]
    exact h
  · rw [heq]
    exact h
  · have hname : (n == other) = false := by
      refine beq_false_of_ne ?_
      rintro rfl
      have hknown : s.store.known.lookup n = some a := h
      rw [hnone] at hknown
      cases hknown
    rw [heq]
    show List.lookup n ((other, read) :: s.store.known) = some a
    rw [List.lookup_cons, hname]
    exact h

/-- **Requests for other names** change neither what a name gives nor what is made of it. -/
theorem given_answer (engine : Engine α) (s : Session α) {r : Request} {n : Text} (hother : ¬ r.Asks n)
    (hchange : ¬ r.IsChange) :
    (s.answer engine r).2.given engine n = s.given engine n ∧
      (s.answer engine r).2.made engine = s.made engine := by
  rcases answer_cases engine s r with heq | ⟨files, rfl, _⟩ | ⟨other, read, hasks, hnone, _, heq⟩
  · rw [heq]
    exact ⟨rfl, rfl⟩
  · exact absurd trivial hchange
  · have hname : (n == other) = false := by
      refine beq_false_of_ne ?_
      rintro rfl
      exact hother hasks
    have hlookup : (s.answer engine r).2.store.known.lookup n = s.store.known.lookup n := by
      rw [heq]
      show List.lookup n ((other, read) :: s.store.known) = _
      rw [List.lookup_cons, hname]
    refine ⟨?_, by rw [heq]; rfl⟩
    cases hknown : s.store.known.lookup n with
    | some a =>
        rw [hknown] at hlookup
        rw [given_of_known (show s.Knows n a from hknown), given_of_known hlookup]
    | none =>
        rw [hknown] at hlookup
        rw [given_of_unknown hknown, given_of_unknown hlookup, heq]

/-! ## Whole sessions -/

theorem home_after (s : Session α) (requests : List Request) :
    (s.after engine requests).store.home = s.store.home := by
  induction requests generalizing s with
  | nil => rfl
  | cons r requests ih => rw [after_cons, ih, home_answer]

theorem Knows.after {s : Session α} {n : Text} {a : α} (h : s.Knows n a) (requests : List Request) :
    (s.after engine requests).Knows n a := by
  induction requests generalizing s with
  | nil => exact h
  | cons r requests ih => exact ih (h.answer r)

/-- **What is known is what its name gives** in the rest of the session. -/
theorem Knows.pins {s : Session α} {n : Text} {a : α} (h : s.Knows n a) : s.Pins engine n a := by
  intro later values
  rw [reply_load, reply_render, given_of_known (h.after later)]
  exact ⟨rfl, rfl⟩

/-- **Where a known template came from.** It was made of its file when a request for it came, and no
request for it before that one had found anything. -/
theorem exists_first_of_known {home : Home} {t : Tree} {requests : List Request} {n : Text} {a : α}
    (h : ((start home t).after engine requests).Knows n a) :
    ∃ earlier r rest, requests = earlier ++ r :: rest ∧ r.Asks n ∧
      ((start home t).after engine earlier).store.known.lookup n = none ∧
      ((start home t).after engine earlier).given engine n = .ok a := by
  -- The request that made it known is the last one, or stands before it.
  induction requests using List.reverseRecOn generalizing a with
  | nil => cases h
  | append_singleton requests r ih =>
      rw [after_append] at h
      by_cases hearlier : ((start home t).after engine requests).Knows n a
      · obtain ⟨earlier, first, rest, rfl, hfirst⟩ := ih hearlier
        exact ⟨earlier, first, rest ++ [r], by simp, hfirst⟩
      · have h : (((start home t).after engine requests).answer engine r).2.Knows n a := h
        rcases answer_cases engine ((start home t).after engine requests) r with heq | ⟨files, _, heq⟩ |
          ⟨other, read, hasks, hnone, hread, heq⟩
        · rw [heq] at h
          exact absurd h hearlier
        · rw [heq] at h
          exact absurd h hearlier
        · rw [heq] at h
          have h : List.lookup n ((other, read) :: ((start home t).after engine requests).store.known) = some a := h
          rw [List.lookup_cons] at h
          cases hname : n == other with
          | false =>
              rw [hname] at h
              exact absurd h hearlier
          | true =>
              obtain rfl : n = other := by simpa using hname
              rw [hname] at h
              cases h
              exact ⟨requests, r, [], rfl, hasks, hnone, by rw [given_of_unknown hnone, hread]; rfl⟩

/-- Requests for other names, however many. -/
theorem given_after (engine : Engine α) (s : Session α) {requests : List Request} {n : Text}
    (h : ∀ r ∈ requests, ¬ r.Asks n ∧ ¬ r.IsChange) :
    (s.after engine requests).given engine n = s.given engine n ∧
      (s.after engine requests).made engine = s.made engine := by
  induction requests generalizing s with
  | nil => exact ⟨rfl, rfl⟩
  | cons r requests ih =>
      obtain ⟨hother, hchange⟩ := h r (by simp)
      obtain ⟨hgiven, hmade⟩ := given_answer engine s hother hchange
      obtain ⟨hrest, hlast⟩ := ih _ fun q hq => h q (List.mem_cons_of_mem r hq)
      exact ⟨hrest.trans hgiven, hlast.trans hmade⟩

/-- A name that does not load is not known. -/
theorem unknown_of_given_error {s : Session α} {n : Text} {f : Fault} (h : s.given engine n = .error f) :
    s.store.known.lookup n = none := by
  cases hknown : s.store.known.lookup n with
  | none => rfl
  | some a =>
      rw [given_of_known (show s.Knows n a from hknown)] at h
      cases h

/-- Where a template is not known, no request for it has found anything so far: it would be known by now. -/
theorem load_error_of_unknown {s : Session α} {n : Text} {front back : List Request} {q : Request}
    (hq : q.Asks n) (h : (s.after engine (front ++ q :: back)).store.known.lookup n = none) :
    ∃ f, ((s.after engine front).answer engine (.load (.str n))).1 = .template (.error f) := by
  rw [reply_load]
  cases hfront : (s.after engine front).given engine n with
  | error f => exact ⟨f, rfl⟩
  | ok a =>
      have hknown : (s.after engine (front ++ q :: back)).Knows n a := by
        rw [after_append]
        exact (knows_of_asks hq hfront).after back
      rw [Knows, h] at hknown
      cases hknown

/-- **Templates stay as they were first read**, for every way to compile and to render them, and every name. Whatever
was asked of a store so far and whatever became of the files in between:
a name that loads gives the same template in all of the rest of the session, whichever request asks for it, and that
was made of what stood in its file when a request for it succeeded for the first time;
a rendering that fails fails as loading does, or keeps the template;
a name that cannot be loaded leaves everything as it was, and gives what stands in its file later on;
and requests for other names do not change what a name renders to. -/
theorem session_pins (engine : Engine α) (home : Home) (t : Tree) (requests : List Request) (n : Text) :
    let s := (start home t).after engine requests
    (∀ r a, r.Asks n → (s.answer engine (.load (.str n))).1 = .template (.ok a) →
      (s.answer engine r).2.Pins engine n a ∧
      ∃ earlier first rest, requests ++ [r] = earlier ++ first :: rest ∧ first.Asks n ∧
        (∀ front q back, earlier = front ++ q :: back → q.Asks n →
          ∃ f, (((start home t).after engine front).answer engine (.load (.str n))).1 = .template (.error f)) ∧
        ∃ text, home.Reads ((start home t).after engine earlier).tree n text ∧ engine.compile n text = .ok a) ∧
    (∀ values f, (s.answer engine (.render (.str n) values)).1 = .text (.error f) →
      (s.answer engine (.load (.str n))).1 = .template (.error f) ∨
        ∃ a, s.made engine a values = .error f ∧ (s.answer engine (.render (.str n) values)).2.Pins engine n a) ∧
    (∀ r f, r.Asks n → (s.answer engine (.load (.str n))).1 = .template (.error f) →
      (s.answer engine r).2 = s ∧
      ∀ files, ((s.answer engine (.change files)).2.answer engine (.load (.str n))).1 =
        .template ((home.template engine.compile files n).mapError loadFault)) ∧
    (∀ others, (∀ r ∈ others, ¬ r.Asks n ∧ ¬ r.IsChange) → ∀ values,
      ((s.after engine others).answer engine (.render (.str n) values)).1 =
        (s.answer engine (.render (.str n) values)).1) := by
  intro s
  have hhome : ∀ earlier, ((start home t).after engine earlier).store.home = home := fun earlier => home_after _ _
  refine ⟨?_, ?_, ?_, ?_⟩
  · intro r a hasks hload
    rw [reply_load] at hload
    have hknows : (s.answer engine r).2.Knows n a := knows_of_asks hasks (Reply.template.inj hload)
    refine ⟨hknows.pins, ?_⟩
    have hlast : ((start home t).after engine (requests ++ [r])).Knows n a := by
      rw [after_append]
      exact hknows
    obtain ⟨earlier, first, rest, hsplit, hfirst, hnone, hgiven⟩ := exists_first_of_known hlast
    refine ⟨earlier, first, rest, hsplit, hfirst, ?_, ?_⟩
    · rintro front q back rfl hq
      exact load_error_of_unknown hq hnone
    · rcases load_eq_ok_iff.1 hgiven with hknown | ⟨-, htext⟩
      · rw [hnone] at hknown
        cases hknown
      · rw [hhome] at htext
        exact htext
  · intro values f hreply
    rw [reply_render] at hreply
    cases hgiven : s.given engine n with
    | error g =>
        rw [hgiven] at hreply
        cases hreply
        exact Or.inl (by rw [reply_load, hgiven])
    | ok a =>
        rw [hgiven] at hreply
        have hasks : (Request.render (.str n) values).Asks n := lookupName_eq_ok_iff.2 rfl
        exact Or.inr ⟨a, Reply.text.inj hreply, (knows_of_asks hasks hgiven).pins⟩
  · intro r f hasks hload
    rw [reply_load] at hload
    have hgiven := Reply.template.inj hload
    refine ⟨answer_of_error hasks hgiven, fun files => ?_⟩
    have hnone : s.store.known.lookup n = none := unknown_of_given_error hgiven
    rw [reply_load, given_of_unknown (s := (s.answer engine (.change files)).2) hnone]
    show Reply.template ((s.store.home.template engine.compile files n).mapError loadFault) = _
    rw [hhome]
  · intro others hothers values
    obtain ⟨hgiven, hmade⟩ := given_after engine s hothers
    rw [reply_render, reply_render, hgiven, hmade]

/-- The file of a template that greets by a name. -/
def greeting : Tree := Template.withFile Tree.empty (Path.ofText "greet.j2") "Hi \x7b\x7b name \x7d\x7d"

/-- A template that is missing at first, then fails to be filled for want of a name, and is removed: its
text is what it was made of all the same. -/
theorem greeting_pinned :
    let s := (start (.directory .here) Tree.empty).after nodeEngine [.load (.str "greet.j2"), .change greeting]
    ∃ nodes, (s.answer nodeEngine (.load (.str "greet.j2"))).1 = .template (.ok nodes) ∧
      ((((s.answer nodeEngine (.render (.str "greet.j2") (.map []))).2.after nodeEngine
        [.change Tree.empty]).answer nodeEngine
        (.render (.str "greet.j2") (.map [(.str "name", .str "Ann")]))).1 =
          .text (nodeEngine.rendered (fun _ => .error .missing) nodes (.map [(.str "name", .str "Ann")]))) := by
  intro s
  have hfound : (s.given nodeEngine "greet.j2").isOk = true := by decide +kernel
  cases hgiven : s.given nodeEngine "greet.j2" with
  | error f =>
      rw [hgiven] at hfound
      cases hfound
  | ok nodes =>
      have hload : (s.answer nodeEngine (.load (.str "greet.j2"))).1 = .template (.ok nodes) := by
        rw [reply_load, hgiven]
      obtain ⟨hpins, _⟩ := (session_pins nodeEngine (.directory .here) Tree.empty
        [.load (.str "greet.j2"), .change greeting] "greet.j2").1 (.render (.str "greet.j2") (.map [])) nodes
        (lookupName_eq_ok_iff.2 rfl) hload
      exact ⟨nodes, hload, (hpins [.change Tree.empty] _).2⟩

end Session

end StepForge.Conversion
