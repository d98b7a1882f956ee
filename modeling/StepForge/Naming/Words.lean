import StepForge.Text.Basic
import StepForge.Text.Letter
import StepForge.Text.Deburr

/-!
# `StepForge.Naming.Words` — the words of a key, a phrase or a title

A key is cut where a reader would cut it: at separators, between a small letter and a capital, between
letters and digits, and before the last capital of a run that small letters follow. Accents and
apostrophes are dropped first, so `l'été` has the words `lete`.

## Contents
- `CharClass`, `CharClass.of` — the four classes of code points.
- `classRuns` — the maximal runs of one class.
- `wordsOfRuns`, `words` — the words of the runs, and of a text.
-/

namespace StepForge.Naming

/-- How a code point takes part in words. -/
inductive CharClass where
  | capital
  | letter
  | digit
  | separator
  deriving DecidableEq, Repr

/-- A capital; any other letter, caseless ones included; a digit; or a separator. -/
def CharClass.of (c : CodePoint) : CharClass :=
  if Text.isCapital c then .capital
  else if Text.isLetter c then .letter
  else if Text.isDigit c then .digit
  else .separator

/-- Puts a code point in front of the runs of the text behind it. -/
def consRun (c : CodePoint) : List (CharClass × Text) → List (CharClass × Text)
  | [] => [(CharClass.of c, [c])]
  | (k, run) :: runs =>
      if CharClass.of c = k then (k, c :: run) :: runs
      else (CharClass.of c, [c]) :: (k, run) :: runs

/-- The maximal runs of code points of one class, in order. -/
def classRuns : Text → List (CharClass × Text)
  | [] => []
  | c :: t => consRun c (classRuns t)

/-- The words of a list of runs: a run of capitals gives its last one to the letters behind it. -/
def wordsOfRuns : List (CharClass × Text) → List Text
  | [] => []
  | (.separator, _) :: runs => wordsOfRuns runs
  | (.capital, capitals) :: (.letter, letters) :: runs =>
      -- The last capital belongs to the letters: `HTMLPage` has the words `HTML` and `Page`.
      let front := capitals.dropLast
      let word := capitals.getLast?.toList ++ letters
      if front.isEmpty then word :: wordsOfRuns runs else front :: word :: wordsOfRuns runs
  | (_, run) :: runs => run :: wordsOfRuns runs

/-- The text that is cut into words: without apostrophes and without accents. -/
def plain (t : Text) : Text := Text.deburr (t.filter (· ≠ '\''.toNat))

/-- The words of a text, in order, as they are written in it. -/
def words (t : Text) : List Text := wordsOfRuns (classRuns (plain t))

end StepForge.Naming
