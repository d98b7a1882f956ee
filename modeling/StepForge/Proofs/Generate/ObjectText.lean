import StepForge.Generate.Field
import StepForge.Proofs.Naming.Identifier
import StepForge.Proofs.Text.Split

/-!
# `StepForge.Proofs.Generate.ObjectText` — object literals and their reading

A script spells objects out: properties between braces, each a name, a colon and a value, with commas between
them. A value is a truth value or a text between single quotes. This module reads such texts, and shows that
what is laid out in lines is read back, whatever the texts hold that are between the quotes, as long as
none of it ends or escapes a text.

What is read here is a part of what a script may hold: no escapes, no other values, no empty objects. All of it
means the same in a script.

## Contents
- `Literal`, `Properties` — what is read.
- `Token`, `outside`, `inside` — the reading of a text into tokens.
- `openObject`, `moreObjects`, `readObjects` — the reading of tokens into objects.
- `Quotable` — texts that can stand between quotes as they are.
- `Scans` — texts whose tokens do not depend on what follows.
- `objectText`, `readObjects_join` — objects laid out in lines, and that they are read back.
-/

namespace StepForge.Generate

/-! ## What is read -/

/-- A value of a property. -/
inductive Literal where
  | text (t : Text)
  | truth (b : Bool)
  deriving DecidableEq

/-- The properties of an object, by name and in order. -/
abbrev Properties := List (Text × Literal)

/-- A piece of the text of objects. -/
inductive Token where
  | opening
  | closing
  | colon
  | comma
  | word (t : Text)
  | quoted (t : Text)
  deriving DecidableEq

/-! ## Tokens -/

/-- Blank, tab and the ends of lines. -/
def isBlank (c : Nat) : Bool := c = 32 || (9 ≤ c && c ≤ 13)

/-- Whether a code point is part of a word. -/
def isWordPoint (c : Nat) : Bool := Naming.isAsciiLetter c || Naming.isAsciiDigit c

/-- The token of a code point that stands for itself; a blank stands for none. -/
def mark? (c : Nat) : Option (List Token) :=
  if c = '\x7b'.toNat then some [.opening]
  else if c = '\x7d'.toNat then some [.closing]
  else if c = ':'.toNat then some [.colon]
  else if c = ','.toNat then some [.comma]
  else if isBlank c then some []
  else none

/-- Whether a code point cannot stand in a text between quotes as it is: the quote, the backslash, and the line
ends. -/
def breaksText (c : Nat) : Bool := c = '\''.toNat || c = '\\'.toNat || c = 10 || c = 13

/-- The token of a word that was read, if there was one. -/
def wordToken (word : Text) : List Token := if word.isEmpty then [] else [.word word]

mutual

/-- The tokens of a text behind a word that was begun. -/
def outside : (word : Text) → Text → Option (List Token)
  | word, [] => some (wordToken word)
  | word, c :: t =>
      if isWordPoint c then outside (word ++ [c]) t
      else if c = '\''.toNat then (inside [] t).map (wordToken word ++ ·)
      else match mark? c with
        | some mark => (outside [] t).map (wordToken word ++ mark ++ ·)
        | none => none

/-- The tokens of a text behind a quote and the beginning of what it opens. -/
def inside : (front : Text) → Text → Option (List Token)
  | _, [] => none
  | front, c :: t =>
      if c = '\''.toNat then (outside [] t).map (.quoted front :: ·)
      else if breaksText c then none
      else inside (front ++ [c]) t

end

/-! ## Objects -/

/-- The value that a token is. -/
def literal? : Token → Option Literal
  | .quoted t => some (.text t)
  | .word w =>
      if w = ("true" : Text) then some (.truth true)
      else if w = ("false" : Text) then some (.truth false)
      else none
  | _ => none

/-- The property of a name and a value. -/
def property? (name : Text) (value : Token) : Option (Text × Literal) :=
  if Naming.isIdentifier name then (literal? value).map (name, ·) else none

mutual

/-- The properties of an object that was opened, and the objects behind it. -/
def openObject : List Token → Option (Properties × List Properties)
  | .word name :: .colon :: value :: .comma :: rest => do
      let p ← property? name value
      let (ps, objects) ← openObject rest
      some (p :: ps, objects)
  | .word name :: .colon :: value :: .closing :: rest => do
      let p ← property? name value
      let objects ← moreObjects rest
      some ([p], objects)
  | _ => none

/-- The objects behind an object. -/
def moreObjects : List Token → Option (List Properties)
  | [] => some []
  | .comma :: .opening :: rest => (openObject rest).map fun (o, objects) => o :: objects
  | _ => none

end

/-- Objects with commas between them. -/
def objectsOf : List Token → Option (List Properties)
  | [] => some []
  | .opening :: rest => (openObject rest).map fun (o, objects) => o :: objects
  | _ => none

/-- The objects that a text spells out. -/
def readObjects (t : Text) : Option (List Properties) := (outside [] t).bind objectsOf

/-! ## Texts that are scanned by themselves -/

/-- A text that can stand between single quotes as it is. -/
def Quotable (t : Text) : Prop := ∀ c ∈ t, breaksText c = false

instance (t : Text) : Decidable (Quotable t) := inferInstanceAs (Decidable (∀ c ∈ t, breaksText c = false))

/-- A text that gives some tokens, whatever follows it. -/
def Scans (front : Text) (tokens : List Token) : Prop :=
  ∀ rest, outside [] (front ++ rest) = (outside [] rest).map (tokens ++ ·)

theorem scans_nil : Scans [] [] := by
  intro rest
  simp

theorem Scans.append {s t : Text} {a b : List Token} (h : Scans s a) (k : Scans t b) : Scans (s ++ t) (a ++ b) := by
  intro rest
  rw [List.append_assoc, h, k, Option.map_map]
  simp [Function.comp_def]

theorem Scans.eq_some {t : Text} {tokens : List Token} (h : Scans t tokens) : outside [] t = some tokens := by
  have hrest := h []
  rw [List.append_nil] at hrest
  rw [hrest, outside]
  simp [wordToken]

/-- A code point that stands for itself is scanned so behind a word. -/
theorem outside_mark {word rest : Text} {c : Nat} {mark : List Token} (hword : isWordPoint c = false)
    (hquote : c ≠ '\''.toNat) (hmark : mark? c = some mark) :
    outside word (c :: rest) = (outside [] rest).map (wordToken word ++ mark ++ ·) := by
  rw [outside, hword, if_neg (by decide), if_neg hquote, hmark]

theorem scans_mark {c : Nat} {mark : List Token} (hword : isWordPoint c = false) (hquote : c ≠ '\''.toNat)
    (hmark : mark? c = some mark) : Scans [c] mark := fun _ => outside_mark hword hquote hmark

theorem outside_word {word begun rest : Text} (h : ∀ c ∈ word, isWordPoint c = true) :
    outside begun (word ++ rest) = outside (begun ++ word) rest := by
  induction word generalizing begun with
  | nil => simp
  | cons c word ih =>
      rw [List.cons_append, outside, if_pos (h c (by simp)), ih fun d hd => h d (List.mem_cons_of_mem c hd)]
      simp

/-- A word and the mark that ends it. -/
theorem scans_word {word : Text} {c : Nat} {mark : List Token} (hne : word ≠ [])
    (h : ∀ d ∈ word, isWordPoint d = true) (hword : isWordPoint c = false) (hquote : c ≠ '\''.toNat)
    (hmark : mark? c = some mark) : Scans (word ++ [c]) (.word word :: mark) := by
  intro rest
  have htoken : wordToken word = [.word word] := by
    unfold wordToken
    rw [if_neg (by simpa using hne)]
  rw [List.append_assoc, outside_word h, List.nil_append, List.singleton_append, outside_mark hword hquote hmark,
    htoken]
  rfl

theorem inside_quotable {t front rest : Text} (h : Quotable t) :
    inside front (t ++ '\''.toNat :: rest) = (outside [] rest).map (.quoted (front ++ t) :: ·) := by
  induction t generalizing front with
  | nil =>
      rw [List.nil_append, inside, if_pos rfl, List.append_nil]
  | cons c t ih =>
      have hc : breaksText c = false := h c (by simp)
      have hquote : c ≠ '\''.toNat := by
        rintro rfl
        revert hc
        decide
      rw [List.cons_append, inside, if_neg hquote, hc, if_neg (by decide),
        ih fun d hd => h d (List.mem_cons_of_mem c hd)]
      simp

/-- **A text between quotes is one token**, whatever it holds but quotes, backslashes and line ends. -/
theorem scans_quoted {t : Text} (h : Quotable t) : Scans (("'" : Text) ++ t ++ "'") [.quoted t] := by
  intro rest
  have hopen : outside [] (("'" : Text) ++ t ++ "'" ++ rest) =
      (inside [] (t ++ '\''.toNat :: rest)).map ([] ++ ·) := by
    show outside [] ('\''.toNat :: (t ++ ['\''.toNat] ++ rest)) = _
    rw [outside, if_neg (by decide), if_pos rfl, List.append_assoc]
    rfl
  rw [hopen, inside_quotable h]
  simp [Function.comp_def]

theorem scans_blank : Scans [32] [] := scans_mark (by decide) (by decide) (by decide)

theorem scans_lineEnd : Scans [10] [] := scans_mark (by decide) (by decide) (by decide)

theorem scans_indent (width : Nat) : Scans (indent width) [] := by
  induction width with
  | zero => exact scans_nil
  | succ width ih => exact scans_blank.append ih

/-! ## Objects laid out in lines -/

/-- How a value is written. -/
def Literal.written : Literal → Text
  | .text t => ("'" : Text) ++ t ++ "'"
  | .truth b => if b then "true" else "false"

/-- A value as a token. -/
def Literal.token : Literal → Token
  | .text t => .quoted t
  | .truth b => .word (if b then "true" else "false")

/-- Whether a property can be written as it is. -/
def Writable (p : Text × Literal) : Prop :=
  Naming.isIdentifier p.1 = true ∧ ∀ t, p.2 = .text t → Quotable t

/-- An object that can be written: it has properties, and all of them can. -/
def WritableObject (o : Properties) : Prop := o ≠ [] ∧ ∀ p ∈ o, Writable p

/-- Pieces with commas between them. -/
def commaTokens : List (List Token) → List Token
  | [] => []
  | [piece] => piece
  | piece :: pieces => piece ++ .comma :: commaTokens pieces

/-- The tokens of a property. -/
def propertyTokens (p : Text × Literal) : List Token := [.word p.1, .colon, p.2.token]

/-- The tokens of an object. -/
def objectTokens (o : Properties) : List Token :=
  .opening :: commaTokens (o.map propertyTokens) ++ [.closing]

/-- A property in its line. -/
def propertyLine (p : Text × Literal) : Text := indent 8 ++ property p.1 p.2.written

/-- An object in its lines. -/
def objectText (o : Properties) : Text :=
  indent 6 ++ ("\x7b\n" : Text) ++ Text.join ",\n" (o.map propertyLine) ++ "\n" ++ indent 6 ++ "\x7d"

theorem literal?_token (l : Literal) : literal? l.token = some l := by
  cases l with
  | text t => rfl
  | truth b => cases b <;> decide

theorem isWordPoint_of_isIdentifier {name : Text} (h : Naming.isIdentifier name = true) :
    name ≠ [] ∧ ∀ c ∈ name, isWordPoint c = true := by
  cases name with
  | nil => exact absurd h (by decide)
  | cons c t =>
      rw [Naming.isIdentifier, Bool.and_eq_true, List.all_eq_true] at h
      refine ⟨List.cons_ne_nil c t, List.forall_mem_cons.2 ⟨?_, h.2⟩⟩
      rw [isWordPoint, h.1, Bool.true_or]

/-- A value and the mark behind it. -/
theorem scans_written {l : Literal} {c : Nat} {mark : List Token} (h : ∀ t, l = .text t → Quotable t)
    (hword : isWordPoint c = false) (hquote : c ≠ '\''.toNat) (hmark : mark? c = some mark) :
    Scans (l.written ++ [c]) (l.token :: mark) := by
  cases l with
  | text t => exact (scans_quoted (h t rfl)).append (scans_mark hword hquote hmark)
  | truth b => exact scans_word (by cases b <;> decide) (by cases b <;> decide) hword hquote hmark

/-- A property in its line and the mark behind it. -/
theorem scans_propertyLine {p : Text × Literal} {c : Nat} {mark : List Token} (h : Writable p)
    (hword : isWordPoint c = false) (hquote : c ≠ '\''.toNat) (hmark : mark? c = some mark) :
    Scans (propertyLine p ++ [c]) (propertyTokens p ++ mark) := by
  obtain ⟨hne, hpoints⟩ := isWordPoint_of_isIdentifier h.1
  have hname : Scans (p.1 ++ [':'.toNat]) [.word p.1, .colon] :=
    scans_word hne hpoints (by decide) (by decide) (by decide)
  have hline := (((scans_indent 8).append hname).append scans_blank).append (scans_written h.2 hword hquote hmark)
  have htext : propertyLine p ++ [c] = indent 8 ++ (p.1 ++ [':'.toNat]) ++ [32] ++ (p.2.written ++ [c]) := by
    show indent 8 ++ (p.1 ++ [58, 32] ++ p.2.written) ++ [c] = _
    simp
  rw [htext]
  exact hline

/-- The lines of the properties of an object. -/
theorem scans_propertyLines {o : Properties} (hne : o ≠ []) (h : ∀ p ∈ o, Writable p) :
    Scans (Text.join ",\n" (o.map propertyLine) ++ [10]) (commaTokens (o.map propertyTokens)) := by
  induction o with
  | nil => exact absurd rfl hne
  | cons p o ih =>
      have hp : Writable p := h p (by simp)
      cases o with
      | nil =>
          have hlast := scans_propertyLine hp (c := 10) (by decide) (by decide) (show mark? 10 = some [] by decide)
          rw [List.append_nil] at hlast
          exact hlast
      | cons q o =>
          have hfirst := scans_propertyLine hp (c := ','.toNat) (by decide) (by decide)
            (show mark? ','.toNat = some [.comma] by decide)
          have hrest := ih (List.cons_ne_nil q o) fun r hr => h r (List.mem_cons_of_mem p hr)
          have hall := (hfirst.append scans_lineEnd).append hrest
          simpa [Text.join_cons_cons, commaTokens, show (Text.ofString ",\n") = [44, 10] from rfl] using hall

theorem scans_objectText {o : Properties} (h : WritableObject o) : Scans (objectText o) (objectTokens o) := by
  have hbrace : Scans ['\x7b'.toNat] [.opening] := scans_mark (by decide) (by decide) (by decide)
  have hopen : Scans ("\x7b\n" : Text) [.opening] := hbrace.append scans_lineEnd
  have hclose : Scans ("\x7d" : Text) [.closing] := scans_mark (by decide) (by decide) (by decide)
  have hfront := ((scans_indent 6).append hopen).append (scans_propertyLines h.1 h.2)
  have hall := (hfront.append (scans_indent 6)).append hclose
  simpa [objectText, objectTokens, show (Text.ofString "\n") = [10] from rfl] using hall

/-- Objects with commas and line ends between them. -/
theorem scans_objectTexts {objects : List Properties} (h : ∀ o ∈ objects, WritableObject o) :
    Scans (Text.join ",\n" (objects.map objectText)) (commaTokens (objects.map objectTokens)) := by
  induction objects with
  | nil => exact scans_nil
  | cons o objects ih =>
      have ho := scans_objectText (h o (by simp))
      cases objects with
      | nil => exact ho
      | cons q objects =>
          have hmark : Scans [','.toNat] [.comma] := scans_mark (by decide) (by decide) (by decide)
          have hcomma : Scans (",\n" : Text) [.comma] := hmark.append scans_lineEnd
          have hrest := ih fun r hr => h r (List.mem_cons_of_mem o hr)
          simpa [Text.join_cons_cons, commaTokens] using (ho.append hcomma).append hrest

/-! ## Objects that are read back -/

theorem property?_token {p : Text × Literal} (h : Writable p) : property? p.1 p.2.token = some p := by
  rw [property?, if_pos h.1, literal?_token]
  rfl

/-- The reading of an object ends with the object, whatever stands behind it. -/
theorem openObject_commaTokens {o : Properties} (h : WritableObject o) (rest : List Token) :
    openObject (commaTokens (o.map propertyTokens) ++ .closing :: rest) = (moreObjects rest).map (o, ·) := by
  obtain ⟨hne, h⟩ := h
  induction o with
  | nil => exact absurd rfl hne
  | cons p o ih =>
      have hp := property?_token (h p (by simp))
      cases o with
      | nil =>
          show openObject (.word p.1 :: .colon :: p.2.token :: .closing :: rest) = _
          rw [openObject, hp]
          cases moreObjects rest <;> rfl
      | cons q o =>
          have hrest := ih (List.cons_ne_nil q o) fun r hr => h r (List.mem_cons_of_mem p hr)
          show openObject (.word p.1 :: .colon :: p.2.token :: .comma ::
            (commaTokens ((q :: o).map propertyTokens) ++ .closing :: rest)) = _
          rw [openObject, hp, hrest]
          cases moreObjects rest <;> rfl

theorem moreObjects_commaTokens {o : Properties} {objects : List Properties}
    (h : ∀ p ∈ o :: objects, WritableObject p) :
    moreObjects (.comma :: commaTokens ((o :: objects).map objectTokens)) = some (o :: objects) := by
  -- Behind each object the reader stands in front of a comma again, so the induction is on the objects left.
  induction objects generalizing o with
  | nil =>
      show moreObjects (.comma :: .opening :: (commaTokens (o.map propertyTokens) ++ [.closing])) = _
      rw [moreObjects, openObject_commaTokens (h o (by simp)), moreObjects]
      rfl
  | cons q objects ih =>
      have hrest := ih fun p hp => h p (List.mem_cons_of_mem o hp)
      have htokens : commaTokens ((o :: q :: objects).map objectTokens)
          = .opening :: (commaTokens (o.map propertyTokens)
            ++ .closing :: .comma :: commaTokens ((q :: objects).map objectTokens)) := by
        simp [commaTokens, objectTokens]
      rw [htokens, moreObjects, openObject_commaTokens (h o (by simp)), hrest]
      rfl

/-- **Objects laid out in lines are read back**: as many of them, and each with its properties in order. -/
theorem readObjects_join {objects : List Properties} (h : ∀ o ∈ objects, WritableObject o) :
    readObjects (Text.join ",\n" (objects.map objectText)) = some objects := by
  rw [readObjects, (scans_objectTexts h).eq_some, Option.bind_some]
  cases objects with
  | nil => rfl
  | cons o objects =>
      have hmore := moreObjects_commaTokens h
      -- The objects are read behind a comma as they are at the beginning.
      have hfirst : ∃ rest, commaTokens ((o :: objects).map objectTokens) = .opening :: rest := by
        cases objects with
        | nil => exact ⟨_, rfl⟩
        | cons q objects => exact ⟨_, rfl⟩
      obtain ⟨rest, hfirst⟩ := hfirst
      rw [hfirst, moreObjects] at hmore
      rw [hfirst, objectsOf]
      exact hmore

end StepForge.Generate
