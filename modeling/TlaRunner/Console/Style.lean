import TlaRunner.Text.Blank
import TlaRunner.Text.Case
import TlaRunner.Text.Numeral

/-!
# Names of styles

A tag of styled text names a style by words: attributes, which may be negated, a
color, a color behind `on` for the background, and a link.  Two names are the same
style if they say the same in another order or with short names, so tags are
compared by `normalStyle`.  A name that is no style stands for itself.  A color may be
given by three components between 0 and 255; a component that is no numeral at all
is refused, and not just taken for no style.
-/

namespace TlaRunner.Console

/-- The attributes in the order in which they are written, with their names. -/
def attributes : List (List Text) :=
  [["bold".toList, "b".toList], ["dim".toList, "d".toList], ["italic".toList, "i".toList],
    ["underline".toList, "u".toList], ["blink".toList], ["blink2".toList],
    ["reverse".toList, "r".toList], ["conceal".toList, "c".toList],
    ["strike".toList, "s".toList], ["underline2".toList, "uu".toList], ["frame".toList],
    ["encircle".toList], ["overline".toList, "o".toList]]

/-- The colors with a name. -/
def colorTable : String := "
black red green yellow blue magenta cyan white bright_black bright_red bright_green
bright_yellow bright_blue bright_magenta bright_cyan bright_white grey0 gray0 navy_blue
dark_blue blue3 blue1 dark_green deep_sky_blue4 dodger_blue3 dodger_blue2 green4
spring_green4 turquoise4 deep_sky_blue3 dodger_blue1 green3 spring_green3 dark_cyan
light_sea_green deep_sky_blue2 deep_sky_blue1 spring_green2 cyan3 dark_turquoise turquoise2
green1 spring_green1 medium_spring_green cyan2 cyan1 dark_red deep_pink4 purple4 purple3
blue_violet orange4 grey37 gray37 medium_purple4 slate_blue3 royal_blue1 chartreuse4
dark_sea_green4 pale_turquoise4 steel_blue steel_blue3 cornflower_blue chartreuse3
cadet_blue sky_blue3 steel_blue1 pale_green3 sea_green3 aquamarine3 medium_turquoise
chartreuse2 sea_green2 sea_green1 aquamarine1 dark_slate_gray2 dark_magenta dark_violet
purple light_pink4 plum4 medium_purple3 slate_blue1 yellow4 wheat4 grey53 gray53
light_slate_grey light_slate_gray medium_purple light_slate_blue dark_olive_green3
dark_sea_green light_sky_blue3 sky_blue2 dark_sea_green3 dark_slate_gray3 sky_blue1
chartreuse1 light_green pale_green1 dark_slate_gray1 red3 medium_violet_red magenta3
dark_orange3 indian_red hot_pink3 medium_orchid3 medium_orchid medium_purple2 dark_goldenrod
light_salmon3 rosy_brown grey63 gray63 medium_purple1 gold3 dark_khaki navajo_white3 grey69
gray69 light_steel_blue3 light_steel_blue yellow3 dark_sea_green2 light_cyan3
light_sky_blue1 green_yellow dark_olive_green2 dark_sea_green1 pale_turquoise1 deep_pink3
magenta2 hot_pink2 orchid medium_orchid1 orange3 light_pink3 pink3 plum3 violet
light_goldenrod3 tan misty_rose3 thistle3 plum2 khaki3 light_goldenrod2 light_yellow3 grey84
gray84 light_steel_blue1 yellow2 dark_olive_green1 honeydew2 light_cyan1 red1 deep_pink2
deep_pink1 magenta1 orange_red1 indian_red1 hot_pink dark_orange salmon1 light_coral
pale_violet_red1 orchid2 orchid1 orange1 sandy_brown light_salmon1 light_pink1 pink1 plum1
gold1 navajo_white1 misty_rose1 thistle1 yellow1 light_goldenrod1 khaki1 wheat1 cornsilk1
grey100 gray100 grey3 gray3 grey7 gray7 grey11 gray11 grey15 gray15 grey19 gray19 grey23
gray23 grey27 gray27 grey30 gray30 grey35 gray35 grey39 gray39 grey42 gray42 grey46 gray46
grey50 gray50 grey54 gray54 grey58 gray58 grey62 gray62 grey66 gray66 grey70 gray70 grey74
gray74 grey78 gray78 grey82 gray82 grey85 gray85 grey89 gray89 grey93 gray93
"

/-- The colors with a name. -/
def colorNames : List Text :=
  (Text.cutAt ' ' (colorTable.toList.map fun c => if c = '\n' then ' ' else c)).filter
    (!·.isEmpty)

/-- Whether a character is a digit of a color code. -/
def isColorDigit (c : Char) : Bool :=
  c.isDigit || ('a' ≤ c && c ≤ 'f')

/-- The text between an opening and the closing bracket. -/
def inBrackets (lead s : Text) : Option Text :=
  if Text.startsWith lead s && Text.endsWith [')'] s && lead.length < s.length then
    some ((s.drop lead.length).dropLast)
  else none

/-- The largest component of a color. -/
def largestComponent : Nat := 255

/-- Whether components of a color are in range.  One that is no numeral is refused. -/
def areComponents (parts : List Text) : Except Text.NumeralError Bool := do
  let values ← parts.mapM Text.readNat
  return values.all (· ≤ largestComponent)

/-- Whether a word in lower case is a color. -/
def isColor (word : Text) : Except Text.NumeralError Bool :=
  if word = "default".toList || colorNames.contains word then .ok true
  else
    match word with
    | '#' :: code => .ok (code.length = 6 && code.all isColorDigit)
    | _ =>
      match inBrackets "color(".toList word, inBrackets "rgb(".toList word with
      | some digits, _ =>
        .ok (!digits.isEmpty && digits.all Char.isDigit && digits.length ≤ 3
          && Text.digitsValue digits ≤ largestComponent)
      | none, some list =>
        let parts := Text.cutAt ',' list
        if list.isEmpty || !parts.flatten.all Text.isDigit || parts.length ≠ 3 then .ok false
        else areComponents parts
      | none, none => .ok false

/-- What the words of a style say. -/
structure Style where
  /-- Attributes by number, each switched on or off.  The last mention counts. -/
  switches : List (Nat × Bool)
  /-- The color. -/
  color : Option Text
  /-- The color of the background. -/
  background : Option Text
  /-- The target of the link. -/
  link : Option Text
  deriving DecidableEq, Repr

/-- The number of the attribute with a name. -/
def attribute? (word : Text) : Option Nat :=
  attributes.findIdx? (·.contains word)

/-- Reads the words of a style; there is none if a word says nothing about one. -/
def readStyle (style : Style) : List Text → Except Text.NumeralError (Option Style)
  | [] => .ok (some style)
  | written :: rest => do
    let word := Text.lowerCase written
    if word = "on".toList then
      match rest with
      | color :: rest' =>
        if ← isColor (Text.lowerCase color) then
          readStyle { style with background := some (Text.lowerCase color) } rest'
        else return none
      | [] => return none
    else if word = "not".toList then
      match rest with
      | name :: rest' =>
        match attribute? name with
        | some number => readStyle { style with switches := (number, false) :: style.switches } rest'
        | none => return none
      | [] => return none
    else if word = "link".toList then
      match rest with
      | target :: rest' => readStyle { style with link := some target } rest'
      | [] => return none
    else
      match attribute? word with
      | some number => readStyle { style with switches := (number, true) :: style.switches } rest
      | none =>
        if ← isColor word then readStyle { style with color := some word } rest else return none

/-- The words of a text. -/
def words (s : Text) : List Text :=
  (Text.cutAt ' ' (s.map fun c => if Text.isBlank c then ' ' else c)).filter (!·.isEmpty)

/-- The words that say what a style says, in a fixed order. -/
def Style.words (style : Style) : List Text :=
  let switches := attributes.zipIdx.filterMap fun (names, number) =>
    (style.switches.find? (·.1 = number)).map fun switch =>
      if switch.2 then names.headD [] else "not ".toList ++ names.headD []
  switches ++ style.color.toList
    ++ (style.background.map fun color => "on ".toList ++ color).toList
    ++ (style.link.map fun target => "link ".toList ++ target).toList

/-- The style that a name says, if it says one. -/
def Style.ofName? (name : Text) : Except Text.NumeralError (Option Style) :=
  readStyle ⟨[], none, none, none⟩ (Console.words name)

/-- The name by which a style is compared. -/
def normalStyle (name : Text) : Except Text.NumeralError Text := do
  if Text.strip name = "none".toList then return "none".toList
  match ← Style.ofName? name with
  | some style =>
    return if style.words.isEmpty then "none".toList else Text.join [' '] style.words
  | none => return Text.lowerCase (Text.strip name)

end TlaRunner.Console
