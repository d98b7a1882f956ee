import StepForge.Literal.Term
import StepForge.Text.Utf8

/-!
# `StepForge.Literal.Check` — whether a text writes out a value

A value is written out by numbers, texts, constants and collections of them. A member of a set and a key
of a mapping cannot be a collection that can change.

## Contents
- `TermFault` — why a term writes out no value.
- `Term.fixed` — what keeps the value of a term from being a key.
- `check` — the fault of a text.
-/

namespace StepForge.Literal

/-- Why a term writes out no value. -/
inductive TermFault where
  | unhashable (kind : Text)
  /-- The term needs to be evaluated; it is nothing but a place to unpack a mapping, or another term. -/
  | computed (unpacking : Bool)
  | null
  | encoding (fault : Utf8.EncodeFault)
  deriving DecidableEq

/-- The text of a fault. -/
def TermFault.message : TermFault → Text
  | unhashable kind => ("unhashable type: '" : Text) ++ kind ++ "'"
  | computed unpacking => ("malformed node or string" : Text) ++ (if unpacking then ": None" else " on line 1" : Text)
  | null => "source code string cannot contain null bytes"
  | encoding f => f.message

/-- What cannot be a key gives a fault. -/
def keyOnly : Option Text → Except TermFault Unit
  | none => .ok ()
  | some kind => .error (.unhashable kind)

namespace Term

/-- Whether a term is a number, with a sign or without, that is imaginary or not. -/
def isNumber (imaginary signs : Bool) : Term → Bool
  | number i => i = imaginary
  | signed (number i) => signs && i = imaginary
  | _ => false

mutual

/-- The kind of the collection that keeps the value of a term from being a key, if there is one. -/
def fixed : Term → Except TermFault (Option Text)
  | number _ | text _ | constant _ | ellipsis => .ok none
  | signed (number _) => .ok none
  | sum l r => if l.isNumber false true && r.isNumber true false then .ok none else .error (.computed false)
  | call (name n) bare =>
      if n = ("set" : Text) && bare then .ok (some "set") else .error (.computed false)
  | tuple xs => fixedItems xs
  | set xs => do
      fixedMembers xs
      .ok (some "set")
  | dict es => do
      fixedEntries es
      .ok (some "dict")
  | _ => .error (.computed false)

/-- The same of the items of a tuple: the first one decides. -/
def fixedItems : List Term → Except TermFault (Option Text)
  | [] => .ok none
  | x :: xs => do
      let first ← fixed x
      let others ← fixedItems xs
      .ok (first.or others)

/-- All members of a set can be keys. -/
def fixedMembers : List Term → Except TermFault Unit
  | [] => .ok ()
  | x :: xs => do
      keyOnly (← fixed x)
      fixedMembers xs

/-- All keys of a mapping can be keys. -/
def fixedEntries : List (Option Term × Term) → Except TermFault Unit
  | [] => .ok ()
  | (none, _) :: _ => .error (.computed true)
  | (some k, v) :: es => do
      let key ← fixed k
      let _ ← fixed v
      keyOnly key
      fixedEntries es

end

end Term

/-- The fault of a text that has to write out a value: one of its form, or one of its value. -/
def check (t : Text) : Except (Fault ⊕ TermFault) Unit :=
  match Utf8.encode t with
  | .error f => .error (.inr (.encoding f))
  | .ok _ =>
      if t.contains 0 then .error (.inr .null)
      else match ofText t with
        | .error f => .error (.inl f)
        | .ok x => match x.fixed with
          | .error f => .error (.inr f)
          | .ok _ => .ok ()

end StepForge.Literal
