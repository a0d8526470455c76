/-
EmbeddedGo.Console.Style — definitions of styles.

A definition is a row of words: attributes, which `not` can take away, a colour, another one behind
`on` for the background, and an address behind `link`. Definitions with the same effect have the
same normal form.

  §1 colours
  §2 attributes
  §3 `Style.read`
  §4 `Style.text`, and normal forms
-/
import EmbeddedGo.Text.Case
import EmbeddedGo.Text.Numeral

namespace EmbeddedGo.Console

open Text

/-! ## §1 Colours -/

/-- Why a definition is none. -/
inductive StyleFlaw where
  /-- A word has no meaning where it stands. -/
  | unknown
  /-- A part of a colour is no number. -/
  | noNumber
  deriving DecidableEq

/-- The names of colours. -/
def colourNames : String := "
  black red green yellow blue magenta cyan white bright_black bright_red bright_green
  bright_yellow bright_blue bright_magenta bright_cyan bright_white grey0 gray0 navy_blue
  dark_blue blue3 blue1 dark_green deep_sky_blue4 dodger_blue3 dodger_blue2 green4 spring_green4
  turquoise4 deep_sky_blue3 dodger_blue1 green3 spring_green3 dark_cyan light_sea_green
  deep_sky_blue2 deep_sky_blue1 spring_green2 cyan3 dark_turquoise turquoise2 green1
  spring_green1 medium_spring_green cyan2 cyan1 dark_red deep_pink4 purple4 purple3 blue_violet
  orange4 grey37 gray37 medium_purple4 slate_blue3 royal_blue1 chartreuse4 dark_sea_green4
  pale_turquoise4 steel_blue steel_blue3 cornflower_blue chartreuse3 cadet_blue sky_blue3
  steel_blue1 pale_green3 sea_green3 aquamarine3 medium_turquoise chartreuse2 sea_green2
  sea_green1 aquamarine1 dark_slate_gray2 dark_magenta dark_violet purple light_pink4 plum4
  medium_purple3 slate_blue1 yellow4 wheat4 grey53 gray53 light_slate_grey light_slate_gray
  medium_purple light_slate_blue dark_olive_green3 dark_sea_green light_sky_blue3 sky_blue2
  dark_sea_green3 dark_slate_gray3 sky_blue1 chartreuse1 light_green pale_green1 dark_slate_gray1
  red3 medium_violet_red magenta3 dark_orange3 indian_red hot_pink3 medium_orchid3 medium_orchid
  medium_purple2 dark_goldenrod light_salmon3 rosy_brown grey63 gray63 medium_purple1 gold3
  dark_khaki navajo_white3 grey69 gray69 light_steel_blue3 light_steel_blue yellow3
  dark_sea_green2 light_cyan3 light_sky_blue1 green_yellow dark_olive_green2 dark_sea_green1
  pale_turquoise1 deep_pink3 magenta2 hot_pink2 orchid medium_orchid1 orange3 light_pink3 pink3
  plum3 violet light_goldenrod3 tan misty_rose3 thistle3 plum2 khaki3 light_goldenrod2
  light_yellow3 grey84 gray84 light_steel_blue1 yellow2 dark_olive_green1 honeydew2 light_cyan1
  red1 deep_pink2 deep_pink1 magenta1 orange_red1 indian_red1 hot_pink dark_orange salmon1
  light_coral pale_violet_red1 orchid2 orchid1 orange1 sandy_brown light_salmon1 light_pink1
  pink1 plum1 gold1 navajo_white1 misty_rose1 thistle1 yellow1 light_goldenrod1 khaki1 wheat1
  cornsilk1 grey100 gray100 grey3 gray3 grey7 gray7 grey11 gray11 grey15 gray15 grey19 gray19
  grey23 gray23 grey27 gray27 grey30 gray30 grey35 gray35 grey39 gray39 grey42 gray42 grey46
  gray46 grey50 gray50 grey54 gray54 grey58 gray58 grey62 gray62 grey66 gray66 grey70 gray70
  grey74 gray74 grey78 gray78 grey82 gray82 grey85 gray85 grey89 gray89 grey93 gray93"

/-- The greatest part of a colour. -/
def colourLimit : Nat := 255

/-- Whether parts of a colour are in their bounds. Only those of three make one. -/
def checkParts (parts : List Text) : Except StyleFlaw Unit :=
  if parts.length ≠ 3 then .error .unknown
  else
    match parts.mapM Numeral.int? with
    | none => .error .noNumber
    | some values => if values.all (· ≤ colourLimit) then .ok () else .error .unknown

/-- What stands between the brackets behind a word. -/
def argument? (word s : Text) : Option Text :=
  match after? (word ++ "(") s with
  | some rest =>
    match rest.reverse with
    | ')' :: inside => some inside.reverse
    | _ => none
  | none => none

/-- Whether a text is a colour: a name, six digits in base sixteen, a number, or three parts. -/
def checkColour (s : Text) : Except StyleFlaw Unit :=
  if s = "default".toList ∨ (fields colourNames.toList).contains s then .ok ()
  else
    match s, argument? "color" s, argument? "rgb" s with
    | '#' :: digits, _, _ =>
      if digits.length = 6 ∧ digits.all (hexDigit? · |>.isSome) then .ok () else .error .unknown
    | _, some digits, _ =>
      if digits ≠ [] ∧ digits.length ≤ 3 ∧ digits.all Char.isDigit ∧ natValue digits ≤ colourLimit
      then .ok () else .error .unknown
    | _, _, some parts =>
      if parts ≠ [] ∧ parts.all fun c => c == ',' || (Numeral.plainDigit c).isDigit then
        checkParts (splitOn ',' parts)
      else .error .unknown
    | _, _, _ => .error .unknown

/-- A colour in small letters. -/
def readColour (word : Text) : Except StyleFlaw Text := do
  checkColour (lower word)
  return lower word

/-! ## §2 Attributes -/

/-- The attributes in their order, each with its short name. -/
def attributes : List (Text × Option Text) := [
  ("bold", some "b"), ("dim", some "d"), ("italic", some "i"), ("underline", some "u"),
  ("blink", none), ("blink2", none), ("reverse", some "r"), ("conceal", some "c"),
  ("strike", some "s"), ("underline2", some "uu"), ("frame", none), ("encircle", none),
  ("overline", some "o")]

/-- The attribute with a name. -/
def attribute? (word : Text) : Option Text :=
  (attributes.find? fun a => a.1 == word || a.2 == some word).map Prod.fst

/-! ## §3 Reading -/

/-- A style: its attributes with whether they are on, the last one first, its colours and its
address. -/
structure Style where
  attributes : List (Text × Bool) := []
  colour : Option Text := none
  background : Option Text := none
  address : Option Text := none
  deriving DecidableEq

namespace Style

/-- A style with an attribute more. -/
def put (style : Style) (name : Text) (isOn : Bool) : Style :=
  { style with attributes := (name, isOn) :: style.attributes }

/-- A style with what words say more. -/
def readWords (style : Style) : List Text → Except StyleFlaw Style
  | [] => .ok style
  | word :: rest =>
    if lower word = "on".toList then
      match rest with
      | [] => .error .unknown
      | colour :: rest => do
        readWords { style with background := some (← readColour colour) } rest
    else if lower word = "not".toList then
      match rest with
      | [] => .error .unknown
      | word :: rest =>
        match attribute? word with
        | some name => readWords (style.put name false) rest
        | none => .error .unknown
    else if lower word = "link".toList then
      match rest with
      | [] => .error .unknown
      | address :: rest => readWords { style with address := some address } rest
    else
      match attribute? (lower word) with
      | some name => readWords (style.put name true) rest
      | none => do readWords { style with colour := some (← readColour word) } rest

/-- The style that a definition writes. -/
def read (definition : Text) : Except StyleFlaw Style :=
  if trim definition = "none".toList then .ok {} else readWords {} (fields definition)

/-! ## §4 Normal forms -/

/-- The words for an attribute. -/
def attributeWords (name : Text) (isOn : Bool) : List Text := if isOn then [name] else ["not", name]

/-- The words for what a word has to stand in front of. -/
def wordsBehind (word : Text) : Option Text → List Text
  | some s => [word, s]
  | none => []

/-- The words of a style in their order. -/
def words (style : Style) : List Text :=
  Console.attributes.flatMap (fun a =>
      match style.attributes.lookup a.1 with
      | some isOn => attributeWords a.1 isOn
      | none => []) ++
    style.colour.toList ++ wordsBehind "on" style.background ++ wordsBehind "link" style.address

/-- The normal form of a style. -/
def text (style : Style) : Text :=
  if style.words.isEmpty then "none" else join " " style.words

/-- The normal form of a definition. One that means nothing is only written in small letters. -/
def normal (definition : Text) : Except StyleFlaw Text :=
  match read definition with
  | .ok style => .ok style.text
  | .error .unknown => .ok (lower (trim definition))
  | .error .noNumber => .error .noNumber

end Style
end EmbeddedGo.Console
