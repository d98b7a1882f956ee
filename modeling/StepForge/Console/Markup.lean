import StepForge.Console.Style
import StepForge.Literal.Check
import StepForge.Text.Letter

/-!
# `StepForge.Console.Markup` — texts with tags for style

A tag stands between brackets and begins with a small letter or one of three marks; any other bracket
is text. Tags are not shown. A tag with a slash closes the latest open tag of one style, a slash alone
the latest one, and where there is none the text is refused. A backslash in front of a tag makes it text.
A tag that begins with an at sign names an action; its arguments are looked at when it is closed. A name between
colons, which can stand for a picture, is text like any other here.

## Contents
- `MarkupFault` — why a text is refused.
- `tagAt?` — the tag at the start of a text.
- `OpenTag`, `applyTag` — the tags that are open behind a tag.
- `unfolded`, `shown` — what is shown of a text with tags.
-/

namespace StepForge.Console

/-- Why a text with tags is refused. -/
inductive MarkupFault where
  /-- A closing tag at a position closes no tag of its style. -/
  | unmatched (tag : Text) (position : Nat)
  | nothingOpen (position : Nat)
  /-- A share of a colour is no number. -/
  | share (fault : Text.NumeralFault)
  /-- The arguments of an action are no expression. -/
  | arguments (text parameters : Text) (fault : Literal.Fault)
  /-- The arguments of an action write out no value. -/
  | value (parameters : Text) (fault : Literal.TermFault)
  deriving DecidableEq

/-- The text of a fault. -/
def MarkupFault.message : MarkupFault → Text
  | unmatched tag position =>
      ("closing tag '" : Text) ++ tag ++ "' at position " ++ Text.ofNat position
        ++ " doesn't match any open tag"
  | nothingOpen position =>
      ("closing tag '[/]' at position " : Text) ++ Text.ofNat position ++ " has nothing to close"
  | share fault => fault.message
  | arguments text parameters fault =>
      ("error parsing " : Text) ++ Text.quoted text ++ " in " ++ Text.quoted parameters ++ "; "
        ++ fault.message
  | value parameters fault =>
      ("error parsing " : Text) ++ Text.quoted parameters ++ "; " ++ fault.message

/-- Whether a code point can be the first one of a tag. -/
def startsTag (c : CodePoint) : Bool :=
  (97 ≤ c && c ≤ 122) || c = '#'.toNat || c = '/'.toNat || c = '@'.toNat

/-- The content of the tag whose bracket was opened in front of the text. -/
def tagBody? (t : Text) : Option Text :=
  match t with
  | c :: rest =>
      if startsTag c then
        let body := rest.takeWhile fun c => c ≠ '['.toNat && c ≠ ']'.toNat
        if rest.drop body.length |>.head? |> (· == some ']'.toNat) then some (c :: body) else none
      else none
  | [] => none

/-- A tag at the start of a text: the number of backslashes in front of it, and its content. -/
def tagAt? (t : Text) : Option (Nat × Text) :=
  let slashes := (t.takeWhile (· = '\\'.toNat)).length
  match t.drop slashes with
  | c :: rest => if c = '['.toNat then (tagBody? rest).map fun body => (slashes, body) else none
  | [] => none

/-- An open tag: the canonical form of its name, and what stands behind an equals sign. -/
structure OpenTag where
  name : Text
  parameters : Text
  deriving DecidableEq

/-- The tags that are open, the latest in front, and the first share of a colour among parameters that is
no number. Such a share is found only when the whole text is shown. -/
structure Tags where
  opened : List OpenTag := []
  late : Option Text.NumeralFault := none

/-- The latest open tag of a name, and the other ones. -/
def closeTag (name : Text) : List OpenTag → Option (OpenTag × List OpenTag)
  | [] => none
  | t :: ts => if t.name = name then some (t, ts) else (closeTag name ts).map fun (u, us) => (u, t :: us)

/-- Whether a code point can be part of the name of an action. -/
def isActionPart (c : CodePoint) : Bool :=
  c = '.'.toNat || c = '_'.toNat || Text.isLetter c || Text.isDigit c

/-- The arguments of an action, which stand between brackets behind its name; what does not look so is
taken as a whole. -/
def actionArguments (parameters : Text) : Text :=
  let t := Text.trim Text.isBlank parameters
  let behind := t.dropWhile isActionPart
  if behind.isEmpty then "()"
  else if 1 < behind.length && behind.head? = some '('.toNat && behind.getLast? = some ')'.toNat
      && !behind.contains 10 then behind
  else t

/-- The fault of a tag that is closed: the arguments of an action have to write out a value. -/
def OpenTag.check (t : OpenTag) : Except MarkupFault Unit :=
  if t.name.head? = some '@'.toNat && !t.parameters.isEmpty then
    let text := actionArguments t.parameters
    match Literal.check text with
    | .ok () => .ok ()
    | .error (.inl f) => .error (.arguments text t.parameters f)
    | .error (.inr f) => .error (.value t.parameters f)
  else .ok ()

/-- A tag closed, and the other ones. -/
def closed (tags : Tags) (t : OpenTag) (others : List OpenTag) : Except MarkupFault Tags :=
  t.check.map fun _ => { tags with opened := others }

/-- The open tags behind a tag at a position. -/
def applyTag (position : Nat) (body : Text) (tags : Tags) : Except MarkupFault Tags := do
  let name := body.takeWhile (· ≠ '='.toNat)
  match name with
  | 0x2F :: rest =>
      let name := Text.trim Text.isBlank rest
      if name.isEmpty then
        match tags.opened with
        | t :: ts => closed tags t ts
        | [] => .error (.nothingOpen position)
      else
        let style ← (canonical name).mapError .share
        match closeTag style tags.opened with
        | some (t, ts) => closed tags t ts
        | none => .error (.unmatched (("[" : Text) ++ body ++ "]") position)
  | name =>
      let style ← (canonical name).mapError .share
      let parameters := body.drop (name.length + 1)
      let late := match named? (style ++ 32 :: parameters) with
        | .ok _ => none
        | .error f => some f
      .ok ⟨⟨style, parameters⟩ :: tags.opened, tags.late.or late⟩

/-- What is shown of a text, and the fault that is found when it is shown. -/
structure Shown where
  text : Text
  late : Option Text.NumeralFault

/-- A text in front of what is shown. -/
def Shown.behind (front : Text) (s : Shown) : Shown := { s with text := front ++ s.text }

/-- What is shown, unless a fault is found. -/
def Shown.settle (s : Shown) : Except MarkupFault Text :=
  match s.late with
  | some f => .error (.share f)
  | none => .ok s.text

/-- What is shown of the text from a position on; the count says how many code points were already taken. -/
def shownFrom : (taken : Nat) → (position : Nat) → Tags → Text → Except MarkupFault Shown
  | _, _, tags, [] => .ok ⟨[], tags.late⟩
  | k + 1, position, tags, _ :: t => shownFrom k (position + 1) tags t
  | 0, position, tags, c :: t =>
      match tagAt? (c :: t) with
      | some (slashes, body) =>
          let size := slashes + body.length + 2
          -- Two backslashes in front of a tag show one; an odd one takes the tag's meaning.
          let front := List.replicate (slashes / 2) '\\'.toNat
          if slashes % 2 = 1 then
            (shownFrom (size - 1) (position + 1) tags t).map
              (·.behind (front ++ '['.toNat :: body ++ [']'.toNat]))
          else
            match applyTag (position + slashes) body tags with
            | .error fault => .error fault
            | .ok tags => (shownFrom (size - 1) (position + 1) tags t).map (·.behind front)
      | none =>
          if c = '\\'.toNat && t.head? = some '['.toNat then
            (shownFrom 1 (position + 1) tags t).map (·.behind ['['.toNat])
          else (shownFrom 0 (position + 1) tags t).map (·.behind [c])

/-- Bell, backspace, vertical tab, form feed and carriage return, which are never shown. -/
def isHidden (c : CodePoint) : Bool := c = 7 || c = 8 || c = 11 || c = 12 || c = 13

/-- The text without the controls that are never shown. -/
def visible (t : Text) : Text := t.filter fun c => !isHidden c

/-- A text with tags, its tags read. -/
def unfolded (t : Text) : Except MarkupFault Shown :=
  (shownFrom 0 0 {} t).map fun s => { s with text := visible s.text }

/-- What is shown of a text with tags. -/
def shown (t : Text) : Except MarkupFault Text := (unfolded t).bind Shown.settle

end StepForge.Console
