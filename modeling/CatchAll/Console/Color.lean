import CatchAll.Journal
import CatchAll.Text.Casing
import CatchAll.Text.Codes
import CatchAll.Text.Digit

/-!
# Colors

How a color is written: by name, by six hexadecimal digits, by its number in the
palette of a terminal or by its three components. A color of which a component is
missing is a failure; any other word that is no color is only unknown.
-/

set_option autoImplicit false

namespace CatchAll.Console

open scoped Text

def colorNames : String :=
  "default
   black red green yellow blue magenta cyan white bright_black bright_red bright_green
   bright_yellow bright_blue bright_magenta bright_cyan bright_white grey0 navy_blue dark_blue
   blue3 blue1 dark_green deep_sky_blue4 dodger_blue3 dodger_blue2 green4 spring_green4
   turquoise4 deep_sky_blue3 dodger_blue1 green3 spring_green3 dark_cyan light_sea_green
   deep_sky_blue2 deep_sky_blue1 spring_green2 cyan3 dark_turquoise turquoise2 green1
   spring_green1 medium_spring_green cyan2 cyan1 dark_red deep_pink4 purple4 purple3 blue_violet
   orange4 grey37 medium_purple4 slate_blue3 royal_blue1 chartreuse4 dark_sea_green4
   pale_turquoise4 steel_blue steel_blue3 cornflower_blue chartreuse3 cadet_blue sky_blue3
   steel_blue1 pale_green3 sea_green3 aquamarine3 medium_turquoise chartreuse2 sea_green2
   sea_green1 aquamarine1 dark_slate_gray2 dark_magenta dark_violet purple light_pink4 plum4
   medium_purple3 slate_blue1 yellow4 wheat4 grey53 light_slate_grey light_slate_gray
   medium_purple light_slate_blue dark_olive_green3 dark_sea_green light_sky_blue3 sky_blue2
   dark_sea_green3 dark_slate_gray3 sky_blue1 chartreuse1 light_green pale_green1
   dark_slate_gray1 red3 medium_violet_red magenta3 dark_orange3 indian_red hot_pink3
   medium_orchid3 medium_orchid medium_purple2 dark_goldenrod light_salmon3 rosy_brown grey63
   medium_purple1 gold3 dark_khaki navajo_white3 grey69 light_steel_blue3 light_steel_blue
   yellow3 dark_sea_green2 light_cyan3 light_sky_blue1 green_yellow dark_olive_green2
   dark_sea_green1 pale_turquoise1 deep_pink3 magenta2 hot_pink2 orchid medium_orchid1 orange3
   light_pink3 pink3 plum3 violet light_goldenrod3 tan misty_rose3 thistle3 plum2 khaki3
   light_goldenrod2 light_yellow3 grey84 light_steel_blue1 yellow2 dark_olive_green1 honeydew2
   light_cyan1 red1 deep_pink2 deep_pink1 magenta1 orange_red1 indian_red1 hot_pink dark_orange
   salmon1 light_coral pale_violet_red1 orchid2 orchid1 orange1 sandy_brown light_salmon1
   light_pink1 pink1 plum1 gold1 navajo_white1 misty_rose1 thistle1 yellow1 light_goldenrod1
   khaki1 wheat1 cornsilk1 grey100 grey3 grey7 grey11 grey15 grey19 grey23 grey27 grey30 grey35
   grey39 grey42 grey46 grey50 grey54 grey58 grey62 grey66 grey70 grey74 grey78 grey82 grey85
   grey89 grey93"

/-- Each grey has two spellings. -/
def isColorName (t : Text) : Bool :=
  let grey : Text := if ("gray" : Text).isPrefixOf t then "grey" ++ t.drop 4 else t
  grey ∈ Text.words colorNames.toList

/-- What stands between a word and a closing bracket at the end. -/
def inside? (opening t : Text) : Option Text :=
  match t.reverse with
  | ')' :: back =>
    let front := back.reverse
    if (opening ++ "(").isPrefixOf front then some (front.drop (opening.length + 1)) else none
  | _ => none

def isHexColor : Text → Bool
  | '#' :: digits => digits.length = 6 && digits.all Text.isHexDigit
  | _ => false

def maxComponent : Nat := 255

/-- A number of the palette has at most three digits. -/
def isPaletteColor (t : Text) : Bool :=
  match inside? "color" t with
  | some digits =>
    0 < digits.length && digits.length ≤ 3 && digits.all Char.isDigit &&
      Text.decimalNumber digits ≤ maxComponent
  | none => false

/-- The longest component that is read. -/
def maxComponentDigits : Nat := 4300

def isMixedColor (t : Text) : Except Outside Bool :=
  match inside? "rgb" t with
  | none => .ok false
  | some inside =>
    let components := Text.cut (· = ',') inside
    if inside.isEmpty || !inside.all (fun c => c = ',' || Text.isDecimalDigit c) then .ok false
    else if components.length ≠ 3 then .ok false
    else if components.any fun c => c.isEmpty || c.length > maxComponentDigits then
      .error .badValue
    else .ok (components.all fun c => Text.decimalNumber c ≤ maxComponent)

/-- The name of a color in small letters, if a word is one. -/
def readColor (word : Text) : Except Outside (Option Text) := do
  let name := Text.strip (Text.lower word)
  if isColorName name || isHexColor name || isPaletteColor name || (← isMixedColor name) then
    return some name
  else return none

end CatchAll.Console
