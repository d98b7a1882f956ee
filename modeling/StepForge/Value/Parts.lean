import StepForge.Value.Display

/-!
# `StepForge.Value.Parts` — things made out of named parts

A thing can be made out of its parts: by their names, from the entries of a mapping, or by their
places, from a list of values. Each name must be one of a part, and the needed parts must be there.

## Contents
- `Maker` — what is made out of which parts.
- `PartFault` — why nothing can be made.
- `Maker.named` — parts by their names.
- `Maker.checkPlaces` — parts by their places.
-/

namespace StepForge

/-- What is made out of which parts. -/
structure Maker where
  /-- The making, as faults name it. -/
  name : Text
  /-- What is made, by its full name. -/
  made : Text
  /-- The names of the parts in order; none if every name is one. -/
  parts : Option (List Text)
  /-- The parts that must be there: they come first. -/
  needed : List Text

/-- Why nothing can be made out of parts. -/
inductive PartFault where
  /-- The parts are given by a value of a kind that is no mapping. -/
  | notNamed (made kind : Text)
  /-- A part has the name of the thing itself. -/
  | twice (maker name : Text)
  | unknown (maker name : Text)
  | missing (maker : Text) (names : List Text)
  /-- More parts are given by their places than there are; the thing itself counts as one. -/
  | tooMany (maker : Text) (least most given : Nat)
  deriving DecidableEq

namespace PartFault

/-- Names in quotes, as they are listed in a sentence. -/
def listed : List Text → Text
  | [] => []
  | [a] => Text.quoted a
  | [a, b] => Text.quoted a ++ (" and " : Text) ++ Text.quoted b
  | names =>
      Text.join ", " (names.dropLast.map Text.quoted) ++ (", and " : Text)
        ++ Text.quoted (names.getLast?.getD [])

/-- An ending that stands behind all numbers but one. -/
def plural (n : Nat) : Text := if n = 1 then [] else "s"

/-- How many parts there may be. -/
def range (least most : Nat) : Text :=
  if least = most then Text.ofNat most ++ (" positional argument" : Text) ++ plural most
  else ("from " : Text) ++ Text.ofNat least ++ " to " ++ Text.ofNat most ++ " positional arguments"

/-- The text of a fault. -/
def message : PartFault → Text
  | notNamed made kind => made ++ (" argument after ** must be a mapping, not " : Text) ++ kind
  | twice maker name => maker ++ (" got multiple values for argument " : Text) ++ Text.quoted name
  | unknown maker name => maker ++ (" got an unexpected keyword argument " : Text) ++ Text.quoted name
  | missing maker names =>
      maker ++ (" missing " : Text) ++ Text.ofNat names.length ++ " required positional argument"
        ++ plural names.length ++ ": " ++ listed names
  | tooMany maker least most given =>
      maker ++ (" takes " : Text) ++ range least most ++ " but " ++ Text.ofNat given
        ++ (if given = 1 then " was given" else " were given" : Text)

end PartFault

namespace Maker

/-- The name of the thing itself, which no part may have. -/
def itself : Text := "self"

/-- What is wrong with the name of a part. -/
def nameFault (m : Maker) (name : Text) : Option PartFault :=
  if name = itself then some (.twice m.name name)
  else match m.parts with
    | some parts => if parts.contains name then none else some (.unknown m.name name)
    | none => none

/-- The needed parts that some names lack. -/
def lacking (m : Maker) (names : List Text) : List Text := m.needed.filter fun n => !names.contains n

/-- The parts that a mapping gives by their names: the first name that is wrong is reported before parts
that are missing. -/
def named (m : Maker) (v : Value) : Except PartFault (List (Text × Value)) :=
  match v.unfolded with
  | .map entries =>
      let parts := entries.map fun (k, v) => (k.display, v)
      let names := parts.map (·.1)
      match names.findSome? m.nameFault with
      | some f => .error f
      | none =>
          if (m.lacking names).isEmpty then .ok parts else .error (.missing m.name (m.lacking names))
  | v => .error (.notNamed m.made v.kind)

/-- Whether there are as many values as parts can be given by their places. -/
def checkPlaces (m : Maker) (args : List Value) : Except PartFault Unit :=
  let most := (m.parts.getD []).length
  if most < args.length then .error (.tooMany m.name (m.needed.length + 1) (most + 1) (args.length + 1))
  else
    let missing := m.needed.drop args.length
    if missing.isEmpty then .ok () else .error (.missing m.name missing)

end Maker
end StepForge
