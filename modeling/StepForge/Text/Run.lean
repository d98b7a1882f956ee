/-!
# `StepForge.Text.Run` — properties and maps of code points as lists of runs

A Unicode property is data: a list of arithmetic runs of code points, ascending and apart. A map of
code points is the same list with the image of each run's first member.

## Contents
- `Run`, `Run.contains`, `inRuns` — membership.
- `Shift`, `Shift.image?`, `shifted?` — images that keep the distance from the run's first member.
-/

namespace StepForge.Text

/-- The code points `first`, `first + step`, and so on up to `last`. -/
structure Run where
  first : Nat
  last : Nat
  step : Nat

/-- Whether the code point is a member of the run. -/
def Run.contains (r : Run) (c : Nat) : Bool :=
  r.first ≤ c && c ≤ r.last && (c - r.first) % r.step == 0

/-- Whether the code point is a member of one of the runs. -/
def inRuns (runs : List Run) (c : Nat) : Bool := runs.any (·.contains c)

/-- The members of a run, each sent to `image` plus its distance from `first`. -/
structure Shift where
  first : Nat
  last : Nat
  step : Nat
  image : Nat

/-- The image of a code point under one run, if it is a member. -/
def Shift.image? (s : Shift) (c : Nat) : Option Nat :=
  if (Run.mk s.first s.last s.step).contains c then some (s.image + (c - s.first)) else none

/-- The image of a code point under the first run that has it. -/
def shifted? (shifts : List Shift) (c : Nat) : Option Nat := shifts.findSome? (·.image? c)

end StepForge.Text
