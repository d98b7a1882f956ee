import StepForge.Value.Display

/-!
# `StepForge.Definition.Category` — the three kinds of steps

A legacy definition keeps its steps in three collections. Each collection becomes one category of
generated steps with a directory of its own.

## Contents
- `Category`, `Category.all` — the categories, in conversion order.
- `name`, `collection`, `directory` — the words that belong to a category.
- `ofCollection`, `ofName` — look-ups by a word, with the fault of an unknown word.
-/

namespace StepForge

/-- A category of generated steps. -/
inductive Category where
  | trigger
  | search
  | write
  deriving DecidableEq, Repr

namespace Category

/-- The categories in conversion order. -/
def all : List Category := [trigger, search, write]

/-- The name of the category. -/
def name : Category → Text
  | trigger => "trigger"
  | search => "search"
  | write => "write"

/-- The collection of a legacy definition that holds the steps of the category. -/
def collection : Category → Text
  | trigger => "triggers"
  | search => "searches"
  | write => "actions"

/-- The directory of the category's modules. -/
def directory : Category → Text
  | trigger => "triggers"
  | search => "searches"
  | write => "writes"

end Category

/-- Why a look-up in a vocabulary fails. -/
inductive LookupFault where
  | unknown (word : Value)
  | notAKey (word : Value)

namespace LookupFault

/-- The text of the fault: the word spelled out, or that its kind cannot be looked up. -/
def message : LookupFault → Text
  | unknown word => word.spelled
  | notAKey word => ("unhashable type: '" : Text) ++ word.kind ++ "'"

end LookupFault

namespace Category

/-- The first category for which `label` gives the word. -/
def withLabel (label : Category → Text) (word : Value) : Except LookupFault Category :=
  if !word.isKey then .error (.notAKey word)
  else match all.find? fun c => Value.sameKey (.str (label c)) word with
    | some c => .ok c
    | none => .error (.unknown word)

/-- The category of a collection of a legacy definition. -/
def ofCollection (word : Value) : Except LookupFault Category := withLabel collection word

/-- The category of a name. -/
def ofName (word : Value) : Except LookupFault Category := withLabel name word

end Category
end StepForge
