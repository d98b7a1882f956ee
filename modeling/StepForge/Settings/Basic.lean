import StepForge.Fault
import StepForge.Generate.Field
import StepForge.Generate.Manifest

/-!
# `StepForge.Settings.Basic` — the settings of a conversion

## Contents
- `Setting` — the names of the settings.
- `Settings`, `Settings.get` — their values, by setting.
- `Settings.assign`, `Settings.ofParts` — settings given by name, whatever their values are.
- `SettingFault`, `Setting.check`, `Settings.ofValue` — settings read from a value, and checked.
-/

namespace StepForge

/-- A setting. -/
inductive Setting where
  | leastHelp
  | workers
  | platformVersion
  deriving DecidableEq

namespace Setting

/-- All settings in the order in which they are written. -/
def all : List Setting := [leastHelp, workers, platformVersion]

/-- The name of a setting. -/
def name : Setting → Text
  | leastHelp => "min_help_text_length"
  | workers => "max_workers"
  | platformVersion => "platform_core_version"

/-- The setting of a name. -/
def ofName? (n : Text) : Option Setting := all.find? fun s => s.name = n

end Setting

/-- The settings of a conversion. What is no number has its effect only where a number is needed. -/
structure Settings where
  /-- The least length of help texts. -/
  leastHelp : Value := Generate.defaultLeast
  /-- The number of workers; null is no limit. -/
  workers : Value := .null
  platformVersion : Value := Generate.defaultPlatformVersion

namespace Settings

instance : Inhabited Settings := ⟨{}⟩

/-- The value of a setting. -/
def get (s : Settings) : Setting → Value
  | .leastHelp => s.leastHelp
  | .workers => s.workers
  | .platformVersion => s.platformVersion

/-- The settings with one of them given by a value. -/
def assign (s : Settings) (setting : Setting) (v : Value) : Settings :=
  match setting with
  | .leastHelp => { s with leastHelp := v }
  | .workers => { s with workers := v }
  | .platformVersion => { s with platformVersion := v }

/-- The default settings with some of them given. -/
def withGiven (value? : Setting → Option Value) : Settings :=
  Setting.all.foldl (fun settings s => match value? s with
    | some v => settings.assign s v
    | none => settings) {}

/-- The parts that settings can be made out of. -/
def maker : Maker where
  name := "ConvertConfig.__init__()"
  made := "app_convert.config.ConvertConfig()"
  parts := some (Setting.all.map Setting.name)
  needed := []

/-- The default settings with some of them given by name. -/
def ofParts (v : Value) : Except PartFault Settings :=
  (maker.named v).map fun parts => withGiven fun s => parts.lookup s.name

end Settings

/-! ## Reading -/

/-- Why a value does not give settings. -/
inductive SettingFault where
  | notMapping (v : Value)
  | unknown (keys : List Value)
  | notInteger (setting : Setting) (v : Value)
  | belowOne (setting : Setting) (v : Value)
  | notText (setting : Setting) (v : Value)
  | empty (setting : Setting) (v : Value)
  /-- What is wrong cannot be said, as an integer in it is too long for a text. -/
  | unsaid

namespace SettingFault

/-- The names of keys that are no settings, ascending. -/
def unknownText (keys : List Value) : Text :=
  let names := (Text.sortBy Value.display keys).map Value.spelled
  ("Additional properties are not allowed (" : Text) ++ Text.join ", " names
    ++ (if names.length = 1 then " was unexpected)" else " were unexpected)" : Text)

/-- What is wrong, without where. -/
def reason : SettingFault → Text
  | notMapping v => ("expected a mapping, got " : Text) ++ v.kind
  | unknown keys => unknownText keys
  | notInteger setting v =>
      v.spelled ++ (if setting = .workers then " is not of type 'integer', 'null'"
        else " is not of type 'integer'" : Text)
  | belowOne _ v => v.spelled ++ (" is less than the minimum of 1" : Text)
  | notText _ v => v.spelled ++ (" is not of type 'string'" : Text)
  | empty _ v => v.spelled ++ (" should be non-empty" : Text)
  | unsaid => ValueFault.long.message

/-- Whether a text about the fault would hold an integer that is too long. -/
def isLong : SettingFault → Bool
  | notMapping _ | unsaid => false
  | unknown keys => keys.any Value.isLong
  | notInteger _ v | belowOne _ v | notText _ v | empty _ v => v.isLong

/-- What is wrong. -/
def message (f : SettingFault) : Text :=
  match f with
  | notMapping _ | unsaid => f.reason
  | unknown _ => f.reason ++ (" (at <root>)" : Text)
  | notInteger s _ | belowOne s _ | notText s _ | empty s _ => f.reason ++ (" (at " : Text) ++ s.name ++ ")"

end SettingFault

namespace Setting

/-- Whether a value is a number without a fraction, which a truth value is not. -/
def isWhole : Value → Bool
  | .int _ => true
  | .float x => x.toInt?.isSome
  | _ => false

/-- Whether a value is a number below one. -/
def isBelowOne : Value → Bool
  | .int n => n < 1
  | .float x => x.belowOne
  | _ => false

/-- What is wrong with a value for a setting. -/
def check (s : Setting) (v : Value) : Option SettingFault :=
  match s, v with
  | workers, .null => none
  | platformVersion, .str t => if t.isEmpty then some (.empty s v) else none
  | platformVersion, v => some (.notText s v)
  | _, v =>
      if !isWhole v then some (.notInteger s v)
      else if isBelowOne v then some (.belowOne s v)
      else none

/-- The settings in the order in which their faults are reported: the greatest name first. -/
def reported : List Setting := [platformVersion, leastHelp, workers]

end Setting

namespace Settings

/-- The keys of a mapping that name no setting. -/
def unknownKeys (entries : List (Value × Value)) : List Value :=
  (entries.map (·.1)).filter fun k => match k with
    | .str n => (Setting.ofName? n).isNone
    | _ => true

/-- The faults of the entries of a mapping in the order in which they are reported: keys that are no
settings come first. -/
def faultsOf (entries : List (Value × Value)) : List SettingFault :=
  let unknown := unknownKeys entries
  (if unknown.isEmpty then [] else [.unknown unknown])
    ++ Setting.reported.filterMap fun s => (Value.get? (.str s.name) entries).bind s.check

/-- The fault that is reported of the entries of a mapping. -/
def faultOf (entries : List (Value × Value)) : Option SettingFault :=
  let faults := faultsOf entries
  -- All faults are put into words before one of them is chosen.
  if faults.any SettingFault.isLong then some .unsaid else faults.head?

/-- The settings that a value gives; null gives none. -/
def ofValue (v : Value) : Except SettingFault Settings :=
  match v.unfolded with
  | .null => .ok {}
  | .map entries => match faultOf entries with
    | some f => .error f
    | none => .ok (withGiven fun s => Value.get? (.str s.name) entries)
  | _ => .error (.notMapping v)

end Settings
end StepForge
