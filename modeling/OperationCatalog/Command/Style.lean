import OperationCatalog.Decimal.Digits
import OperationCatalog.Text.Case
import OperationCatalog.Text.Wrapped

/-!
# Styles

A style is written in words: attributes, which may be excluded, a color, a color of the ground, and
a link. Two ways to write one style are one name (`OperationCatalog.Command.Style.canonical`):
attributes come first, in a fixed order and in full, then the colors, and then the link; of two
colors the last one counts. A text that is no style is its own name, whatever the case of its
letters.
-/

namespace OperationCatalog.Command

/-- A style. -/
structure Style where
  /-- The attributes it has, and those it excludes. -/
  attributes : List (String × Bool) := []
  /-- The color. -/
  color : Option (List Char) := none
  /-- The color of the ground. -/
  ground : Option (List Char) := none
  /-- The link. -/
  link : Option (List Char) := none

namespace Style

/-! ### Words -/

/-- The attributes in order, each with the words for it. -/
def attributeWords : List (String × List String) :=
  [("bold", ["bold", "b"]), ("dim", ["dim", "d"]), ("italic", ["italic", "i"]),
    ("underline", ["underline", "u"]), ("blink", ["blink"]), ("blink2", ["blink2"]),
    ("reverse", ["reverse", "r"]), ("conceal", ["conceal", "c"]), ("strike", ["strike", "s"]),
    ("underline2", ["underline2", "uu"]), ("frame", ["frame"]), ("encircle", ["encircle"]),
    ("overline", ["overline", "o"])]

/-- The attribute that a word stands for. -/
def attribute? (word : List Char) : Option String :=
  (attributeWords.find? fun (_, words) => words.contains (String.ofList word)).map (·.1)

/-- The colors with names. -/
def colorNames : List String :=
  ["default", "black", "red", "green", "yellow", "blue", "magenta", "cyan", "white",
    "bright_black", "bright_red", "bright_green", "bright_yellow", "bright_blue", "bright_magenta",
    "bright_cyan", "bright_white", "grey0", "gray0", "navy_blue", "dark_blue", "blue3", "blue1",
    "dark_green", "deep_sky_blue4", "dodger_blue3", "dodger_blue2", "green4", "spring_green4",
    "turquoise4", "deep_sky_blue3", "dodger_blue1", "green3", "spring_green3", "dark_cyan",
    "light_sea_green", "deep_sky_blue2", "deep_sky_blue1", "spring_green2", "cyan3",
    "dark_turquoise", "turquoise2", "green1", "spring_green1", "medium_spring_green", "cyan2",
    "cyan1", "dark_red", "deep_pink4", "purple4", "purple3", "blue_violet", "orange4", "grey37",
    "gray37", "medium_purple4", "slate_blue3", "royal_blue1", "chartreuse4", "dark_sea_green4",
    "pale_turquoise4", "steel_blue", "steel_blue3", "cornflower_blue", "chartreuse3", "cadet_blue",
    "sky_blue3", "steel_blue1", "pale_green3", "sea_green3", "aquamarine3", "medium_turquoise",
    "chartreuse2", "sea_green2", "sea_green1", "aquamarine1", "dark_slate_gray2", "dark_magenta",
    "dark_violet", "purple", "light_pink4", "plum4", "medium_purple3", "slate_blue1", "yellow4",
    "wheat4", "grey53", "gray53", "light_slate_grey", "light_slate_gray", "medium_purple",
    "light_slate_blue", "dark_olive_green3", "dark_sea_green", "light_sky_blue3", "sky_blue2",
    "dark_sea_green3", "dark_slate_gray3", "sky_blue1", "chartreuse1", "light_green",
    "pale_green1", "dark_slate_gray1", "red3", "medium_violet_red", "magenta3", "dark_orange3",
    "indian_red", "hot_pink3", "medium_orchid3", "medium_orchid", "medium_purple2",
    "dark_goldenrod", "light_salmon3", "rosy_brown", "grey63", "gray63", "medium_purple1", "gold3",
    "dark_khaki", "navajo_white3", "grey69", "gray69", "light_steel_blue3", "light_steel_blue",
    "yellow3", "dark_sea_green2", "light_cyan3", "light_sky_blue1", "green_yellow",
    "dark_olive_green2", "dark_sea_green1", "pale_turquoise1", "deep_pink3", "magenta2",
    "hot_pink2", "orchid", "medium_orchid1", "orange3", "light_pink3", "pink3", "plum3", "violet",
    "light_goldenrod3", "tan", "misty_rose3", "thistle3", "plum2", "khaki3", "light_goldenrod2",
    "light_yellow3", "grey84", "gray84", "light_steel_blue1", "yellow2", "dark_olive_green1",
    "honeydew2", "light_cyan1", "red1", "deep_pink2", "deep_pink1", "magenta1", "orange_red1",
    "indian_red1", "hot_pink", "dark_orange", "salmon1", "light_coral", "pale_violet_red1",
    "orchid2", "orchid1", "orange1", "sandy_brown", "light_salmon1", "light_pink1", "pink1",
    "plum1", "gold1", "navajo_white1", "misty_rose1", "thistle1", "yellow1", "light_goldenrod1",
    "khaki1", "wheat1", "cornsilk1", "grey100", "gray100", "grey3", "gray3", "grey7", "gray7",
    "grey11", "gray11", "grey15", "gray15", "grey19", "gray19", "grey23", "gray23", "grey27",
    "gray27", "grey30", "gray30", "grey35", "gray35", "grey39", "gray39", "grey42", "gray42",
    "grey46", "gray46", "grey50", "gray50", "grey54", "gray54", "grey58", "gray58", "grey62",
    "gray62", "grey66", "gray66", "grey70", "gray70", "grey74", "gray74", "grey78", "gray78",
    "grey82", "gray82", "grey85", "gray85", "grey89", "gray89", "grey93", "gray93"]

/-- What a word is as a color. -/
inductive ColorWord where
  /-- A color. -/
  | color
  /-- No color. -/
  | none
  /-- A color of three parts of which one is missing. -/
  | incomplete
  deriving DecidableEq

/-- The number of some digits. -/
def numberOf (digits : List Char) : Nat :=
  digits.foldl (fun n c => n * 10 + (Decimal.digitValue? c).getD 0) 0

/-- What stands between a word for a kind of color, with a bracket, and a closing bracket. -/
def inBrackets? (opening : String) (word : List Char) : Option (List Char) :=
  if word.take opening.length == opening.toList && word.getLast? == some ')' then
    some (word.drop opening.length).dropLast
  else none

/-- Whether a text is a color by its number. -/
def isColorNumber (digits : List Char) : Bool :=
  0 < digits.length && digits.length ≤ 3 && digits.all Char.isDigit && numberOf digits ≤ 255

/-- What three numbers with commas between them are as a color. -/
def ofParts (text : List Char) : ColorWord :=
  let parts := text.splitOn ','
  if text.isEmpty || !text.all (fun c => c == ',' || (Decimal.digitValue? c).isSome) then .none
  else if parts.length ≠ 3 then .none
  else if parts.any List.isEmpty then .incomplete
  else if parts.all fun part => numberOf part ≤ 255 then .color
  else .none

/-- Whether a character is a hexadecimal digit in lower case. -/
def isHex (c : Char) : Bool := c.isDigit || ('a' ≤ c && c ≤ 'f')

/-- **What a word in lower case is as a color**: a name, six hexadecimal digits, a number, or three
numbers. -/
def colorWord (word : List Char) : ColorWord :=
  if colorNames.contains (String.ofList word) then .color
  else if word.length = 7 && word.head? == some '#' && word.tail.all isHex then .color
  else match inBrackets? "color(" word, inBrackets? "rgb(" word with
    | some digits, _ => if isColorNumber digits then .color else .none
    | _, some parts => ofParts parts
    | none, none => .none

/-! ### Styles -/

/-- Why a text is not read as a style. -/
inductive Fault where
  /-- It is no style. -/
  | noStyle
  /-- A color lacks a part. -/
  | incompleteColor
  deriving DecidableEq, Repr

/-- A word that must be a color. -/
def readColor (word : List Char) : Except Fault (List Char) :=
  let word := Text.lowered word
  match colorWord word with
  | .color => .ok word
  | .none => .error .noStyle
  | .incomplete => .error .incompleteColor

/-- A style with an attribute, or without it. -/
def withAttribute (style : Style) (name : String) (present : Bool) : Style :=
  { style with attributes := (name, present) :: style.attributes.filter (·.1 != name) }

/-- A style with what some words add to it. -/
def addWords (style : Style) : List (List Char) → Except Fault Style
  | [] => .ok style
  | [word] =>
    match attribute? (Text.lowered word) with
    | some name => .ok (style.withAttribute name true)
    | none => (readColor word).map fun c => { style with color := some c }
  | word :: next :: rest =>
    if Text.lowered word == "on".toList then do
      let ground ← readColor next
      addWords { style with ground := some ground } rest
    else if Text.lowered word == "not".toList then
      match attribute? next with
      | some name => addWords (style.withAttribute name false) rest
      | none => .error .noStyle
    else if Text.lowered word == "link".toList then
      addWords { style with link := some next } rest
    else
      match attribute? (Text.lowered word) with
      | some name => addWords (style.withAttribute name true) (next :: rest)
      | none => do
        let c ← readColor word
        addWords { style with color := some c } (next :: rest)

/-- The name of a style: attributes, colors and link in this order. -/
def name (style : Style) : List Char :=
  let attributes := attributeWords.filterMap fun (full, _) =>
    (style.attributes.lookup full).map fun present =>
      (if present then full else "not " ++ full).toList
  let ground := style.ground.map ("on ".toList ++ ·)
  let link := style.link.map ("link ".toList ++ ·)
  [' '].intercalate (attributes ++ [style.color, ground, link].filterMap id)

/-- The words of a text. -/
def wordsOf (text : List Char) : List (List Char) :=
  ((Text.words text).map fun word => word.filter (!Text.separatesWords ·)).filter (!·.isEmpty)

/-- **The name of the style that a text is**, or the text in lower case if it is none. -/
def canonical (text : List Char) : Except Fault (List Char) :=
  let words := wordsOf text
  if words.isEmpty || words == ["none".toList] then .ok "none".toList
  else match addWords {} words with
    | .ok style => .ok style.name
    | .error .noStyle =>
      .ok (Text.lowered (Text.withoutBlanks (text.dropWhile Text.separatesWords)))
    | .error fault => .error fault

end Style

end OperationCatalog.Command
