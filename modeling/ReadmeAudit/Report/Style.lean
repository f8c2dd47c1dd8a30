import ReadmeAudit.Text.Blank
import ReadmeAudit.Text.Case
import ReadmeAudit.Text.Number

/-!
# Styles

The style of a text is described by words: attributes such as `bold`, a colour, `on` with the colour
of the background, and `link` with an address. A report is printed without its styles. They matter
nevertheless, because tags are compared by the normal form of their style, and because a colour may
be given by numbers that cannot be read.
-/

namespace ReadmeAudit.Report

open Text

/-- Why a description gives no style. -/
inductive StyleError where
  /-- A word is unknown, or another is missing after it. -/
  | unknown
  /-- A number cannot be read. -/
  | number (error : NumberError)
deriving Repr, DecidableEq

/-- A style. -/
structure Style where
  /-- The attributes that are switched on or off, the last first. -/
  attributes : List (String × Bool) := []
  /-- The colour. -/
  color : Option String := none
  /-- The colour of the background. -/
  background : Option String := none
  /-- The address that is linked to. -/
  link : Option String := none

/-! ### Colours -/

/-- The names of the colours. -/
def colorNames : List String :=
  ["black", "red", "green", "yellow", "blue", "magenta", "cyan", "white", "bright_black",
    "bright_red", "bright_green", "bright_yellow", "bright_blue", "bright_magenta", "bright_cyan",
    "bright_white", "grey0", "gray0", "navy_blue", "dark_blue", "blue3", "blue1", "dark_green",
    "deep_sky_blue4", "dodger_blue3", "dodger_blue2", "green4", "spring_green4", "turquoise4",
    "deep_sky_blue3", "dodger_blue1", "green3", "spring_green3", "dark_cyan", "light_sea_green",
    "deep_sky_blue2", "deep_sky_blue1", "spring_green2", "cyan3", "dark_turquoise", "turquoise2",
    "green1", "spring_green1", "medium_spring_green", "cyan2", "cyan1", "dark_red", "deep_pink4",
    "purple4", "purple3", "blue_violet", "orange4", "grey37", "gray37", "medium_purple4",
    "slate_blue3", "royal_blue1", "chartreuse4", "dark_sea_green4", "pale_turquoise4", "steel_blue",
    "steel_blue3", "cornflower_blue", "chartreuse3", "cadet_blue", "sky_blue3", "steel_blue1",
    "pale_green3", "sea_green3", "aquamarine3", "medium_turquoise", "chartreuse2", "sea_green2",
    "sea_green1", "aquamarine1", "dark_slate_gray2", "dark_magenta", "dark_violet", "purple",
    "light_pink4", "plum4", "medium_purple3", "slate_blue1", "yellow4", "wheat4", "grey53",
    "gray53", "light_slate_grey", "light_slate_gray", "medium_purple", "light_slate_blue",
    "dark_olive_green3", "dark_sea_green", "light_sky_blue3", "sky_blue2", "dark_sea_green3",
    "dark_slate_gray3", "sky_blue1", "chartreuse1", "light_green", "pale_green1",
    "dark_slate_gray1", "red3", "medium_violet_red", "magenta3", "dark_orange3", "indian_red",
    "hot_pink3", "medium_orchid3", "medium_orchid", "medium_purple2", "dark_goldenrod",
    "light_salmon3", "rosy_brown", "grey63", "gray63", "medium_purple1", "gold3", "dark_khaki",
    "navajo_white3", "grey69", "gray69", "light_steel_blue3", "light_steel_blue", "yellow3",
    "dark_sea_green2", "light_cyan3", "light_sky_blue1", "green_yellow", "dark_olive_green2",
    "dark_sea_green1", "pale_turquoise1", "deep_pink3", "magenta2", "hot_pink2", "orchid",
    "medium_orchid1", "orange3", "light_pink3", "pink3", "plum3", "violet", "light_goldenrod3",
    "tan", "misty_rose3", "thistle3", "plum2", "khaki3", "light_goldenrod2", "light_yellow3",
    "grey84", "gray84", "light_steel_blue1", "yellow2", "dark_olive_green1", "honeydew2",
    "light_cyan1", "red1", "deep_pink2", "deep_pink1", "magenta1", "orange_red1", "indian_red1",
    "hot_pink", "dark_orange", "salmon1", "light_coral", "pale_violet_red1", "orchid2", "orchid1",
    "orange1", "sandy_brown", "light_salmon1", "light_pink1", "pink1", "plum1", "gold1",
    "navajo_white1", "misty_rose1", "thistle1", "yellow1", "light_goldenrod1", "khaki1", "wheat1",
    "cornsilk1", "grey100", "gray100", "grey3", "gray3", "grey7", "gray7", "grey11", "gray11",
    "grey15", "gray15", "grey19", "gray19", "grey23", "gray23", "grey27", "gray27", "grey30",
    "gray30", "grey35", "gray35", "grey39", "gray39", "grey42", "gray42", "grey46", "gray46",
    "grey50", "gray50", "grey54", "gray54", "grey58", "gray58", "grey62", "gray62", "grey66",
    "gray66", "grey70", "gray70", "grey74", "gray74", "grey78", "gray78", "grey82", "gray82",
    "grey85", "gray85", "grey89", "gray89", "grey93", "gray93"]

/-- The greatest number that stands for a colour, or for the share of red, green or blue in one. -/
def colorLimit : Nat := 255

/-- Whether a character is a hexadecimal digit in lower case. -/
def isLowerHex (c : Char) : Bool :=
  c.isDigit || ('a' ≤ c && c ≤ 'f')

/-- What stands between a beginning and a closing parenthesis at the end. -/
def argument? (lead : String) (chars : List Char) : Option (List Char) :=
  if lead.toList.isPrefixOf chars && chars.getLast? == some ')' then
    some (chars.drop lead.length).dropLast
  else none

/-- Accept the shares of red, green and blue. All of them are read before any is compared. -/
def acceptShares (shares : List Char) : Except StyleError Unit := do
  let numbers ← ((splitChars ',' shares).mapM readNumber).mapError .number
  if numbers.all (· ≤ colorLimit) then return () else throw .unknown

/-- Accept a colour in lower case: a name, six hexadecimal digits, a number, or three shares. -/
def acceptColor (color : String) : Except StyleError Unit :=
  let chars := color.toList
  let isShare (c : Char) : Bool := (decimal? c).isSome || c == ','
  if color = "default" || colorNames.contains color then .ok ()
  else if chars.head? == some '#' && chars.length = 7 && chars.tail.all isLowerHex then .ok ()
  else match argument? "color(" chars, argument? "rgb(" chars with
    | some digits, _ =>
      if digits.all Char.isDigit && 0 < digits.length && digits.length ≤ 3
        && Nat.ofDigitChars 10 digits 0 ≤ colorLimit then .ok ()
      else .error .unknown
    | _, some shares =>
      if !shares.isEmpty && shares.all isShare && shares.count ',' = 2 then acceptShares shares
      else .error .unknown
    | _, _ => .error .unknown

/-! ### Descriptions -/

/-- The attributes by their names and short names. -/
def attributeNames : List (String × String) :=
  [("dim", "dim"), ("d", "dim"), ("bold", "bold"), ("b", "bold"), ("italic", "italic"),
    ("i", "italic"), ("underline", "underline"), ("u", "underline"), ("blink", "blink"),
    ("blink2", "blink2"), ("reverse", "reverse"), ("r", "reverse"), ("conceal", "conceal"),
    ("c", "conceal"), ("strike", "strike"), ("s", "strike"), ("underline2", "underline2"),
    ("uu", "underline2"), ("frame", "frame"), ("encircle", "encircle"), ("overline", "overline"),
    ("o", "overline")]

/-- The attributes in the order in which a normal form has them. -/
def attributeOrder : List String :=
  ["bold", "dim", "italic", "underline", "blink", "blink2", "reverse", "conceal", "strike",
    "underline2", "frame", "encircle", "overline"]

/-- The words of a text. -/
def words (text : String) : List String :=
  let chars := text.toList.map fun c => if isBlank c then ' ' else c
  ((splitChars ' ' chars).filter (!·.isEmpty)).map String.ofList

namespace Style

/-- The style with what words describe. The word after `not` has to be in lower case. -/
def addWords (style : Style) : List String → Except StyleError Style
  | [] => .ok style
  | word :: rest =>
    match lower word, rest with
    | "on", color :: rest => do
      acceptColor (lower color)
      addWords { style with background := some (lower color) } rest
    | "not", name :: rest =>
      match attributeNames.lookup name with
      | some full =>
        addWords { style with attributes := (full, false) :: style.attributes } rest
      | none => .error .unknown
    | "link", address :: rest => addWords { style with link := some address } rest
    | word, rest =>
      match attributeNames.lookup word with
      | some full =>
        addWords { style with attributes := (full, true) :: style.attributes } rest
      | none => do
        acceptColor word
        addWords { style with color := some word } rest

/-- The style of a description. -/
def parse (text : String) : Except StyleError Style :=
  if strip text = "none" then .ok {} else addWords {} (words text)

/-- The description of a style in normal form. -/
def text (style : Style) : String :=
  let shown := attributeOrder.filterMap fun name =>
    (style.attributes.lookup name).map fun on => if on then name else "not " ++ name
  let parts := shown ++ style.color.toList
    ++ (style.background.map ("on " ++ ·)).toList ++ (style.link.map ("link " ++ ·)).toList
  if parts.isEmpty then "none" else " ".intercalate parts

end Style

/-- The normal form of a description. One that describes no style is taken as it is, in lower
case. -/
def normalize (text : String) : Except NumberError String :=
  match Style.parse text with
  | .ok style => .ok style.text
  | .error .unknown => .ok (lower (strip text))
  | .error (.number error) => .error error

end ReadmeAudit.Report
