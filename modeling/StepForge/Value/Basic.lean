import StepForge.Text.Basic
import StepForge.Number.Binary64
import StepForge.Value.Calendar

/-!
# `StepForge.Value.Basic` — the values a definition is made of

Definitions are loosely typed: any member may hold any value that a JSON or YAML text can spell. A
mapping is the list of its entries, in the order in which their keys first came. A collection that holds
itself is a knot: its body, in which a name stands for the collection.

## Contents
- `Value` — the values, with `Value.kind` naming what a value is.
- `unfolded` — a collection whose parts are values by themselves.
- `sameKey` — when two keys are one key of a mapping.
- `get?`, `insert` — look-up and insertion in entries; `member?` reads a mapping by a text key.
- `isTruthy` — the values that count as given.
-/

namespace StepForge

/-- A value of a definition. -/
inductive Value where
  | null
  | bool (b : Bool)
  | int (n : Int)
  | float (x : Binary64)
  | str (t : Text)
  | list (items : List Value)
  | map (entries : List (Value × Value))
  | set (members : List Value)
  | date (d : Date)
  | moment (m : Moment)
  | bytes (bs : List UInt8)
  | tuple (items : List Value)
  /-- A collection that is met again inside itself, under a name. -/
  | knot (name : Nat) (body : Value)
  /-- The mapping or list of a name, met again inside itself. -/
  | again (name : Nat) (mapping : Bool)
  deriving Inhabited

namespace Value

/-- The word for what a value is. -/
def kind : Value → Text
  | null => "NoneType"
  | bool _ => "bool"
  | int _ => "int"
  | float _ => "float"
  | str _ => "str"
  | list _ => "list"
  | map _ => "dict"
  | set _ => "set"
  | date _ => "date"
  | moment _ => "datetime"
  | bytes _ => "bytes"
  | tuple _ => "tuple"
  | knot _ body => body.kind
  | again _ mapping => if mapping then "dict" else "list"

/-- Whether a value can be a key of a mapping: collections that can change cannot. -/
def isKey : Value → Bool
  | list _ | map _ | set _ | knot _ _ | again _ _ => false
  | _ => true

/-! ## Knots -/

mutual

/-- A part of the body of a knot with the whole knot for its name. A knot of the same name inside is that
knot already. -/
def tie (name : Nat) (whole : Value) : Value → Value
  | again n mapping => if n = name then whole else again n mapping
  | knot n body => if n = name then knot n body else knot n (tie name whole body)
  | list items => list (tieItems name whole items)
  | map entries => map (tieEntries name whole entries)
  | set members => set (tieItems name whole members)
  | tuple items => tuple (tieItems name whole items)
  | v => v

/-- The same for all items. -/
def tieItems (name : Nat) (whole : Value) : List Value → List Value
  | [] => []
  | x :: xs => tie name whole x :: tieItems name whole xs

/-- The same for the values of all entries. -/
def tieEntries (name : Nat) (whole : Value) : List (Value × Value) → List (Value × Value)
  | [] => []
  | (k, v) :: es => (k, tie name whole v) :: tieEntries name whole es

end

/-- A value whose parts are values by themselves. -/
def unfolded : Value → Value
  | knot name body => tie name (knot name body) body
  | v => v

/-! ## Keys and entries -/

/-- The number a value counts as when keys are compared: booleans count as zero and one. -/
def number? : Value → Option (Int ⊕ Binary64)
  | bool b => some (.inl (if b then 1 else 0))
  | int n => some (.inl n)
  | float x => some (match x.toInt? with
      | some n => .inl n
      | none => .inr x)
  | _ => none

/-- Whether two keys are one: equal numbers of any kind, equal texts, bytes or dates, or one moment. -/
def sameKey (a b : Value) : Bool :=
  match a.number?, b.number? with
  | some (.inl m), some (.inl n) => m == n
  | some (.inr x), some (.inr y) => x.same y
  | none, none =>
      match a, b with
      | null, null => true
      | str s, str t => s == t
      | date d, date e => d == e
      | moment m, moment n => m.same n
      | bytes s, bytes t => s == t
      | _, _ => false
  | _, _ => false

/-- The value of a key in a list of entries. -/
def get? (key : Value) : List (Value × Value) → Option Value
  | [] => none
  | (k, v) :: entries => if sameKey k key then some v else get? key entries

/-- Entries with a value put under a key: a key that is there keeps its place and its spelling. -/
def insert (key value : Value) : List (Value × Value) → List (Value × Value)
  | [] => [(key, value)]
  | (k, v) :: entries =>
      if sameKey k key then (k, value) :: entries else (k, v) :: insert key value entries

/-- The entries of a mapping that was written out in order. -/
def ofEntries (entries : List (Value × Value)) : List (Value × Value) :=
  entries.foldl (fun done e => insert e.1 e.2 done) []

/-- The entries of a mapping; any other value has none. -/
def entries (v : Value) : List (Value × Value) :=
  match v.unfolded with
  | map es => es
  | _ => []

/-- The value of a text key in a mapping; a value that is no mapping has no members. -/
def member? (v : Value) (key : Text) : Option Value := get? (str key) v.entries

/-- The value of a text key in a mapping, or null. -/
def member (v : Value) (key : Text) : Value := (v.member? key).getD null

/-- Whether a value counts as given: not null, false, zero or empty. -/
def isTruthy : Value → Bool
  | null => false
  | bool b => b
  | int n => n != 0
  | float x => !(x.isFinite && x.mantissa == 0)
  | str t => !t.isEmpty
  | list xs => !xs.isEmpty
  | map es => !es.isEmpty
  | set xs => !xs.isEmpty
  | date _ => true
  | moment _ => true
  | bytes bs => !bs.isEmpty
  | tuple xs => !xs.isEmpty
  | knot _ body => body.isTruthy
  | again _ _ => true

end Value
end StepForge
