import StepForge.Text.Numeral
import StepForge.Tree.Path

/-!
# `StepForge.Command.Arguments` — the words of a command line

The first word names a command. Options may stand anywhere behind it, an option with a value followed by
it or joined to it by an equals sign; behind two hyphens there are no options any more.

## Contents
- `Request`, `Request.paths` — what is asked for.
- `Given`, `scan` — the options and the other words behind the name of a command.
- `named`, `parse` — the command of all words, unless they are none.
-/

namespace StepForge.Command

/-- What is asked for. -/
inductive Request where
  | convert (definition out : Path) (config : Option Path) (workers : Option Int) (verbose : Bool)
  | initConfig (dir : Path)
  | templates
  | help

/-- The paths of a request. -/
def Request.paths : Request → List Path
  | .convert definition out config _ _ => definition :: out :: config.toList
  | .initConfig dir => [dir]
  | .templates => []
  | .help => []

/-- The words behind the name of a command, told apart. -/
structure Given where
  /-- The words that are no options, the last one in front. -/
  words : List Text := []
  /-- Options with their values, the last one in front. -/
  values : List (Text × Text) := []
  /-- Options without values, the last one in front. -/
  flags : List Text := []

/-- The options of a command: those with a value, those without, and letters that stand for the latter. -/
structure Options where
  valued : List Text
  flags : List Text
  letters : List (CodePoint × Text)

/-- The options that every command has. -/
def commonOptions : Options := ⟨[], ["--help"], []⟩

/-- The options of a conversion. -/
def convertOptions : Options :=
  ⟨["--config", "--workers"], ["--help", "--verbose"], [('v'.toNat, "--verbose")]⟩

/-- The options that the letters behind a hyphen stand for. -/
def lettersOf (options : Options) (g : Given) : Text → Option Given
  | [] => some g
  | c :: t => match options.letters.lookup c with
    | some flag => lettersOf options { g with flags := flag :: g.flags } t
    | none => none

/-- The name of an option, and the value joined to it. -/
def splitOption (word : Text) : Text × Option Text :=
  let name := word.takeWhile (· ≠ '='.toNat)
  (name, (word.drop name.length).tail?)

/-- The words of a command told apart; none if an option is unknown or has no value. -/
def scan (options : Options) (g : Given) : List Text → Option Given
  | [] => some g
  | word :: rest =>
      if word = ("--" : Text) then some { g with words := rest.reverse ++ g.words }
      else if word.head? ≠ some '-'.toNat || word.length = 1 then
        scan options { g with words := word :: g.words } rest
      else
        let (name, joined) := splitOption word
        if options.valued.contains name then
          match joined, rest with
          | some v, rest => scan options { g with values := (name, v) :: g.values } rest
          | none, v :: rest => scan options { g with values := (name, v) :: g.values } rest
          | none, [] => none
        else if options.flags.contains name then
          if joined.isSome then none else scan options { g with flags := name :: g.flags } rest
        else if Text.startsWith word "--" then none
        else match lettersOf options g word.tail with
          | some g => scan options g rest
          | none => none

/-- White space around a number; the information separators are none. -/
def isMargin (c : CodePoint) : Bool := Text.isBlank c && !(28 ≤ c && c ≤ 31)

/-- A number of workers, which is at least one. A plus and zeros may stand in front of it, with underscores
behind these zeros, and a point with zeros behind it; its digits are those of ASCII, with single
underscores between them. -/
def workers? (t : Text) : Option Int :=
  let t := Text.trim isMargin t
  let t := if t.head? = some '+'.toNat then t.tail else t
  let t := if t.head? = some '0'.toNat then t.dropWhile fun c => c = '0'.toNat || c = '_'.toNat else t
  let whole := t.takeWhile (· ≠ '.'.toNat)
  let places := (t.drop whole.length).tail
  if places.all (· = '0'.toNat) && whole.all (fun c => c = '_'.toNat || (Text.digit? c).isSome) then
    (Text.integerOf 10 whole).toOption.filter (1 ≤ ·)
  else none

/-- The command that the words behind `convert` ask for. -/
def convertOf (g : Given) : Option Request :=
  match g.words.reverse with
  | [definition, out] =>
      let config := (g.values.lookup ("--config" : Text)).map Path.ofText
      let verbose := g.flags.contains ("--verbose" : Text)
      match g.values.lookup ("--workers" : Text) with
      | none => some (.convert (.ofText definition) (.ofText out) config none verbose)
      | some n => (workers? n).map fun n =>
          .convert (.ofText definition) (.ofText out) config (some n) verbose
  | _ => none

/-- A command read from the words behind its name; one of its options asks for help instead. -/
def commandOf (options : Options) (make : Given → Option Request) (words : List Text) : Option Request :=
  (scan options {} words).bind fun g =>
    if g.flags.contains ("--help" : Text) then some .help else make g

/-- The command of words that begin with its name; none if they are not understood. -/
def named (words : List Text) : Option Request :=
  match words with
  | [] => none
  | name :: rest =>
      if name = ("--help" : Text) then some .help
      else if name = ("convert" : Text) then commandOf convertOptions convertOf rest
      else if name = ("init-config" : Text) then
        commandOf commonOptions (fun g => match g.words with
          | [] => some (.initConfig .here)
          | [dir] => some (.initConfig (.ofText dir))
          | _ => none) rest
      else if name = ("templates" : Text) then
        commandOf commonOptions (fun g => if g.words.isEmpty then some .templates else none) rest
      else none

/-- The command of all words; two hyphens may stand in front of its name. -/
def parse (words : List Text) : Option Request :=
  if words.head? = some ("--" : Text) then named words.tail else named words

end StepForge.Command
