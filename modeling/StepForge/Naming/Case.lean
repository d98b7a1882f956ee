import StepForge.Naming.Words
import StepForge.Text.LetterCase
import StepForge.Value.Display

/-!
# `StepForge.Naming.Case` — names in camel, snake and kebab case

## Contents
- `smallWords` — the words in lower case.
- `capitalize` — one capital in front.
- `camelCase`, `snakeCase`, `kebabCase` — the three ways to join the words of a text.
- `nameText` — the text by which a value is named.
-/

namespace StepForge.Naming

/-- The words of a text in lower case. -/
def smallWords (t : Text) : List Text := (words t).map Text.lower

/-- The first code point in upper case and the rest in lower case. -/
def capitalize : Text → Text
  | [] => []
  | c :: t => Text.upperLetter c ++ Text.lower t

/-- The first word in lower case, every other one capitalised, nothing between them. -/
def camelCase (t : Text) : Text :=
  match smallWords t with
  | [] => []
  | w :: ws => w ++ (ws.map capitalize).flatten

/-- The words in lower case with underscores between them. -/
def snakeCase (t : Text) : Text := Text.join "_" (smallWords t)

/-- The words in lower case with hyphens between them. -/
def kebabCase (t : Text) : Text := Text.join "-" (smallWords t)

/-- The text whose words name a value: null has no words. -/
def nameText : Value → Text
  | .null => []
  | v => v.display

end StepForge.Naming
