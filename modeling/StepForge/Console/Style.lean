import StepForge.Text.Numeral
import StepForge.Text.LetterCase

/-!
# `StepForge.Console.Style` — the names of styles

A style names attributes, a colour, a background and a link. Two names of one style have one canonical
form, by which a closing tag finds the tag that it closes. Nothing of a style is shown. A colour that is
given by its shares is refused if one of them is no number.

## Contents
- `colorNames`, `colors`, `isColor` — the names of colours.
- `attributes` — the names of attributes.
- `named?`, `canonical` — the style of a name, and the canonical form of a name.
-/

namespace StepForge.Console

/-- The spellings of the named colours. -/
def colorNames : List String :=
  ["black", "red", "green", "yellow", "blue", "magenta", "cyan", "white", "bright_black", "bright_red",
   "bright_green", "bright_yellow", "bright_blue", "bright_magenta", "bright_cyan", "bright_white", "grey0",
   "gray0", "navy_blue", "dark_blue", "blue3", "blue1", "dark_green", "deep_sky_blue4", "dodger_blue3",
   "dodger_blue2", "green4", "spring_green4", "turquoise4", "deep_sky_blue3", "dodger_blue1", "green3",
   "spring_green3", "dark_cyan", "light_sea_green", "deep_sky_blue2", "deep_sky_blue1", "spring_green2",
   "cyan3", "dark_turquoise", "turquoise2", "green1", "spring_green1", "medium_spring_green", "cyan2",
   "cyan1", "dark_red", "deep_pink4", "purple4", "purple3", "blue_violet", "orange4", "grey37", "gray37",
   "medium_purple4", "slate_blue3", "royal_blue1", "chartreuse4", "dark_sea_green4", "pale_turquoise4",
   "steel_blue", "steel_blue3", "cornflower_blue", "chartreuse3", "cadet_blue", "sky_blue3", "steel_blue1",
   "pale_green3", "sea_green3", "aquamarine3", "medium_turquoise", "chartreuse2", "sea_green2", "sea_green1",
   "aquamarine1", "dark_slate_gray2", "dark_magenta", "dark_violet", "purple", "light_pink4", "plum4",
   "medium_purple3", "slate_blue1", "yellow4", "wheat4", "grey53", "gray53", "light_slate_grey",
   "light_slate_gray", "medium_purple", "light_slate_blue", "dark_olive_green3", "dark_sea_green",
   "light_sky_blue3", "sky_blue2", "dark_sea_green3", "dark_slate_gray3", "sky_blue1", "chartreuse1",
   "light_green", "pale_green1", "dark_slate_gray1", "red3", "medium_violet_red", "magenta3", "dark_orange3",
   "indian_red", "hot_pink3", "medium_orchid3", "medium_orchid", "medium_purple2", "dark_goldenrod",
   "light_salmon3", "rosy_brown", "grey63", "gray63", "medium_purple1", "gold3", "dark_khaki",
   "navajo_white3", "grey69", "gray69", "light_steel_blue3", "light_steel_blue", "yellow3", "dark_sea_green2",
   "light_cyan3", "light_sky_blue1", "green_yellow", "dark_olive_green2", "dark_sea_green1",
   "pale_turquoise1", "deep_pink3", "magenta2", "hot_pink2", "orchid", "medium_orchid1", "orange3",
   "light_pink3", "pink3", "plum3", "violet", "light_goldenrod3", "tan", "misty_rose3", "thistle3", "plum2",
   "khaki3", "light_goldenrod2", "light_yellow3", "grey84", "gray84", "light_steel_blue1", "yellow2",
   "dark_olive_green1", "honeydew2", "light_cyan1", "red1", "deep_pink2", "deep_pink1", "magenta1",
   "orange_red1", "indian_red1", "hot_pink", "dark_orange", "salmon1", "light_coral", "pale_violet_red1",
   "orchid2", "orchid1", "orange1", "sandy_brown", "light_salmon1", "light_pink1", "pink1", "plum1", "gold1",
   "navajo_white1", "misty_rose1", "thistle1", "yellow1", "light_goldenrod1", "khaki1", "wheat1", "cornsilk1",
   "grey100", "gray100", "grey3", "gray3", "grey7", "gray7", "grey11", "gray11", "grey15", "gray15", "grey19",
   "gray19", "grey23", "gray23", "grey27", "gray27", "grey30", "gray30", "grey35", "gray35", "grey39",
   "gray39", "grey42", "gray42", "grey46", "gray46", "grey50", "gray50", "grey54", "gray54", "grey58",
   "gray58", "grey62", "gray62", "grey66", "gray66", "grey70", "gray70", "grey74", "gray74", "grey78",
   "gray78", "grey82", "gray82", "grey85", "gray85", "grey89", "gray89", "grey93", "gray93", "default"]

/-- The named colours. -/
def colors : List Text := colorNames.map Text.ofString

/-- The text between a word with an opening bracket and the bracket that closes it at the end. -/
def between? (start t : Text) : Option Text :=
  (Text.dropStart? start t).bind fun rest =>
    if rest.getLast? = some ')'.toNat then some rest.dropLast else none

/-- The greatest shade of a colour. -/
def fullShade : Int := 255

/-- Whether a text is a number of at most three digits that is no more than the greatest shade. -/
def isShade (t : Text) : Bool :=
  !t.isEmpty && t.length ≤ 3 && t.all (fun c => (Text.digit? c).isSome)
    && Text.valueOf 10 (t.filterMap Text.digit?) ≤ fullShade

/-- Whether texts of decimal digits are three shades. Each of them has to be a number. -/
def areShades (parts : List Text) : Except Text.NumeralFault Bool :=
  if parts.length = 3 then do
    let shades ← parts.mapM (Text.integerOf 10)
    pure (shades.all (· ≤ fullShade))
  else pure false

/-- Whether a word in lower case is a colour: a name, six hexadecimal digits, a number or three shares. -/
def isColor (w : Text) : Except Text.NumeralFault Bool :=
  match between? "rgb(" w with
  | some shares =>
      if !shares.isEmpty && shares.all (fun c => c = ','.toNat || (Text.decimalDigit? c).isSome) then
        areShades (Text.splitOn ','.toNat shares)
      else pure false
  | none =>
      pure (colors.contains w
        || (match Text.dropStart? "#" w with
            | some ds => ds.length = 6 && ds.all fun c => (Text.hexDigit? c).isSome
            | none => false)
        || ((between? "color(" w).map isShade).getD false)

/-- The names of attributes with the attribute they stand for. -/
def attributes : List (Text × Text) :=
  [("dim", "dim"), ("d", "dim"), ("bold", "bold"), ("b", "bold"), ("italic", "italic"), ("i", "italic"),
   ("underline", "underline"), ("u", "underline"), ("blink", "blink"), ("blink2", "blink2"),
   ("reverse", "reverse"), ("r", "reverse"), ("conceal", "conceal"), ("c", "conceal"),
   ("strike", "strike"), ("s", "strike"), ("underline2", "underline2"), ("uu", "underline2"),
   ("frame", "frame"), ("encircle", "encircle"), ("overline", "overline"), ("o", "overline")]

/-- The attributes in the order of a canonical form. -/
def attributeOrder : List Text :=
  ["bold", "dim", "italic", "underline", "blink", "blink2", "reverse", "conceal", "strike",
   "underline2", "frame", "encircle", "overline"]

/-- What the words of a name say, the later word of one kind deciding. -/
structure Style where
  /-- Attributes with whether they are on, the latest in front. -/
  flags : List (Text × Bool)
  color : Option Text
  background : Option Text
  link : Option Text

/-- The style of the words of a name, if each is understood. -/
def styleOf? (s : Style) : List Text → Except Text.NumeralFault (Option Style)
  | [] => pure (some s)
  | w :: ws => do
      let word := Text.lower w
      if word = ("on" : Text) then
        match ws with
        | c :: ws =>
            if ← isColor (Text.lower c) then styleOf? { s with background := some (Text.lower c) } ws
            else pure none
        | [] => pure none
      else if word = ("not" : Text) then
        match ws with
        | a :: ws => match attributes.lookup a with
          | some a => styleOf? { s with flags := (a, false) :: s.flags } ws
          | none => pure none
        | [] => pure none
      else if word = ("link" : Text) then
        match ws with
        | target :: ws => styleOf? { s with link := some target } ws
        | [] => pure none
      else match attributes.lookup word with
        | some a => styleOf? { s with flags := (a, true) :: s.flags } ws
        | none =>
            if ← isColor word then styleOf? { s with color := some word } ws else pure none

/-- The words between white space. -/
def spacedWords (t : Text) : List Text :=
  (Text.splitOn 32 (t.map fun c => if Text.isBlank c then 32 else c)).filter fun w => !w.isEmpty

/-- The words of the canonical form of a style. -/
def Style.words (s : Style) : List Text :=
  (attributeOrder.filterMap fun a =>
    (s.flags.lookup a).map fun on => if on then a else ("not " : Text) ++ a)
    ++ s.color.toList
    ++ ((s.background.map fun c => [("on" : Text), c]).getD [])
    ++ ((s.link.map fun l => [("link" : Text), l]).getD [])

/-- The style that a name says, if it is understood. -/
def named? (name : Text) : Except Text.NumeralFault (Option Style) :=
  styleOf? ⟨[], none, none, none⟩ (spacedWords name)

/-- The canonical form of a name; a name that is not understood is only freed of letter case. -/
def canonical (name : Text) : Except Text.NumeralFault Text := do
  let t := Text.trim Text.isBlank name
  if t.isEmpty || t = ("none" : Text) then pure "none"
  else match ← named? name with
    | some s => pure (if s.words.isEmpty then "none" else Text.join " " s.words)
    | none => pure (Text.lower t)

end StepForge.Console
