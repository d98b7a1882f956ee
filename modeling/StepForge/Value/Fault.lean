import StepForge.Tree.Path
import StepForge.Value.Display

/-!
# `StepForge.Value.Fault` — values that do not fit where they stand

Any member of a definition or of the settings may hold any value. Nearly all of them can be put into a
text; the few ways in which that fails, or in which a value of the wrong kind is used, are faults.

## Contents
- `ValueFault` — what can be wrong with a value.
- `written`, `quotedInScript` — the texts of a value, unless an integer in it is too long or it has no end.
- `path`, `pathName`, `label` — what only a text can be.
-/

namespace StepForge

/-- Why a value does not fit where it stands. -/
inductive ValueFault where
  /-- An integer has more digits than a text may have. -/
  | long
  /-- Two kinds have no order. -/
  | unordered (sign left right : Text)
  /-- A value of a kind has no such member. -/
  | lacks (kind member : Text)
  /-- A value of a kind stands for a path. -/
  | notPath (kind : Text)
  /-- A value of a kind stands for a name in a path. -/
  | notPathName (kind : Text)
  /-- A value of a kind stands for something to show. -/
  | notShown (kind : Text)
  /-- A value of a kind stands for the text of a file. -/
  | notData (kind : Text)
  /-- A value of a kind stands for the text of a fault. -/
  | notSpoken (kind : Text)
  /-- A value of a kind has no items. -/
  | notItems (kind : Text)
  /-- The item at a position is of a kind and not a text. -/
  | notTextAt (position : Nat) (kind : Text)
  /-- A value of a kind stands for a count. -/
  | notCount (kind : Text)
  /-- An integer is too large for a count. -/
  | largeCount
  /-- A list leads back into itself where its text is made of those of its items. -/
  | endless
  deriving DecidableEq

namespace ValueFault

/-- The text of a fault. -/
def message : ValueFault → Text
  | long =>
      ("Exceeds the limit (" : Text) ++ Text.ofNat Text.numeralLimit
        ++ " digits) for integer string conversion; use sys.set_int_max_str_digits() to increase the limit"
  | unordered sign left right =>
      Text.quoted sign ++ (" not supported between instances of " : Text) ++ Text.quoted left ++ " and "
        ++ Text.quoted right
  | lacks kind member =>
      Text.quoted kind ++ (" object has no attribute " : Text) ++ Text.quoted member
  | notPath kind => ("expected str, bytes or os.PathLike object, not " : Text) ++ kind
  | notPathName kind =>
      ("unsupported operand type(s) for /: 'PosixPath' and " : Text) ++ Text.quoted kind
  | notShown kind =>
      ("unable to render " : Text) ++ kind ++ "; a string or other renderable object is required"
  | notData kind => ("data must be str, not " : Text) ++ kind
  | notSpoken kind => ("__str__ returned non-string (type " : Text) ++ kind ++ ")"
  | notItems kind => Text.quoted kind ++ (" object is not iterable" : Text)
  | notTextAt position kind =>
      ("sequence item " : Text) ++ Text.ofNat position ++ ": expected str instance, " ++ kind ++ " found"
  | notCount kind => Text.quoted kind ++ (" object cannot be interpreted as an integer" : Text)
  | largeCount => "cannot fit 'int' into an index-sized integer"
  | endless => "maximum recursion depth exceeded"

end ValueFault

namespace Value

/-- The plain text of a value. -/
def written (v : Value) : Except ValueFault Text := if v.isLong then .error .long else .ok v.display

mutual

/-- What keeps a value from having a text in a script: an integer that is too long, or a list that is met again
among its own items. Mappings hide what they hold. -/
def scriptFault? : Value → Option ValueFault
  | list xs | tuple xs => itemsFault? xs
  | map _ => none
  | knot _ body => scriptFault? body
  | again _ mapping => if mapping then none else some .endless
  | v => if v.isLong then some .long else none

/-- The first of the faults of some values. -/
def itemsFault? : List Value → Option ValueFault
  | [] => none
  | x :: xs => match scriptFault? x with
    | some f => some f
    | none => itemsFault? xs

end

/-- The text of a value in a script, between single quotes. -/
def quotedInScript (v : Value) : Except ValueFault Text :=
  match v.scriptFault? with
  | some f => .error f
  | none => .ok v.scriptQuoted

/-- The path that a value writes. -/
def path : Value → Except ValueFault Path
  | str t => .ok (.ofText t)
  | v => .error (.notPath v.kind)

/-- The name that a value gives behind a directory. -/
def pathName : Value → Except ValueFault Text
  | str t => .ok t
  | v => .error (.notPathName v.kind)

/-- The label that a value gives to a row; null is an empty one. -/
def label : Value → Except ValueFault Text
  | str t => .ok t
  | null => .ok []
  | v => .error (.notShown v.kind)

end Value
end StepForge
