import StepForge.Fault

/-!
# `StepForge.Fault.Raise` — faults raised by hand

A fault can be raised by its kind with any values. The faults of the library take as many values as they
have parts; the others take any number.

## Contents
- `FaultKind`, `FaultKind.maker?` — what can be raised, and its parts.
- `itemsOf`, `textsOf` — the names of files that a value lists.
- `systemFault` — what is wrong with the values of a failed operation of the system.
- `raise` — the fault, or what is wrong with its values.
-/

namespace StepForge

/-- What can be raised. -/
inductive FaultKind where
  | general
  | definition
  | configuration
  | settings
  | generation
  | template
  | conversion
  | loose (kind : RaisedKind)
  deriving DecidableEq

namespace FaultKind

/-- The maker of the faults of a word, with its needed parts and the others. -/
def makerOf (word : Text) (needed others : List Text) : Maker where
  name := word ++ (".__init__()" : Text)
  made := ("app_convert.exceptions." : Text) ++ word ++ "()"
  parts := some (needed ++ others)
  needed := needed

/-- The parts of a fault of the library. Faults of no particular kind are all made in one way. -/
def maker? : FaultKind → Option Maker
  | general | configuration | generation => some (makerOf "AppConvertError" ["message"] ["suggestion"])
  | definition => some (makerOf "DefinitionLoadError" ["path", "error_details"] [])
  | settings => some (makerOf "InvalidConfigError" ["error_details"] [])
  | template => some (makerOf "TemplateNotFoundError" ["template_name", "template_dir"] [])
  | conversion => some (makerOf "ConversionError" ["file_name", "original_error"] ["written"])
  | loose _ => none

end FaultKind

namespace Fault

/-! ## Values of faults -/

/-- The items of a value that counts as given; a text has its letters and a mapping its keys. -/
def itemsOf (v : Value) : Except ValueFault (List Value) :=
  if !v.isTruthy then .ok []
  else match v.unfolded with
    | .str t => .ok (t.map fun c => .str [c])
    | .list xs | .tuple xs | .set xs => .ok xs
    | .map es => .ok (es.map (·.1))
    | v => .error (.notItems v.kind)

/-- Items that must be texts, the first of them at a position. -/
def textsOf : (position : Nat) → List Value → Except ValueFault (List Text)
  | _, [] => .ok []
  | i, .str t :: items => (textsOf (i + 1) items).map (t :: ·)
  | i, v :: _ => .error (.notTextAt i v.kind)

/-- How far a count reaches in either direction. -/
def countLimit : Nat := Nat.pow 2 63

/-- What is wrong with a value that stands for a count. -/
def countFault : Value → Option ValueFault
  | .int n => if (countLimit : Int) ≤ n || n < -(countLimit : Int) then some .largeCount else none
  | .bool _ => none
  | v => some (.notCount v.kind)

/-- What is wrong with the values of a failed operation of the system: what was done before an operation
would have had to wait is a count. -/
def systemFault : List Value → Option ValueFault
  | number :: _ :: v :: rest =>
      if rest.length ≤ 2 && isProgress number v then countFault v else none
  | _ => none

/-! ## Raising -/

/-- A value among the arguments; null if it is not given. -/
def argument (args : List Value) (i : Nat) : Value := args[i]?.getD .null

/-- The fault of a conversion that failed: its cause is said before the written files are. -/
def ofConversion (file : Value) (cause : Fault) (written : Value) : Except ValueFault Fault := do
  let items ← itemsOf written
  let _ ← cause.spoken
  let names ← textsOf 0 items
  .ok (.conversion file cause names)

/-- The fault of a kind with its values, in the place of whose second one a conversion has its cause. -/
def ofKind (kind : FaultKind) (args : List Value) (cause : Fault) : Except Fault Fault :=
  match kind with
  | .general => .ok (.general (argument args 0) (argument args 1))
  | .definition => .ok (.definition (argument args 0).display (argument args 1).display)
  | .configuration => .ok (.configuration (argument args 0) (argument args 1))
  | .settings => .ok (.settings (argument args 0).display)
  | .generation => .ok (.generation (argument args 0) (argument args 1))
  | .template => .ok (.template (argument args 0) (argument args 1).display)
  | .conversion => (ofConversion (argument args 0) cause (argument args 2)).mapError .value
  | .loose .system => match systemFault args with
    | some f => .error (.value f)
    | none => .ok (.raised .system args)
  | .loose kind => .ok (.raised kind args)

/-- The fault of a kind with its values, or what is wrong with these. -/
def raise (kind : FaultKind) (args : List Value) (cause : Fault) : Except Fault Fault :=
  match kind.maker? with
  | none => ofKind kind args cause
  | some maker => match maker.checkPlaces args with
    | .error f => .error (.parts f)
    | .ok () => ofKind kind args cause

end Fault
end StepForge
