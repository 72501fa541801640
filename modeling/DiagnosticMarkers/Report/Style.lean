import DiagnosticMarkers.Number
import DiagnosticMarkers.Text.LowerCase

/-!
# Styles

A style is written in words: attributes, which the word "not" in front takes away, a color,
the word "on" and a background, and the word "link" and a target. Later words override earlier
ones. Two texts that write the same style have the same name. A color is written by its name, by
its number in a palette of 256, by six hexadecimal digits behind a number sign, or by three
components of at most 255.
-/

namespace DiagnosticMarkers.Report

open Text

/-! ## Colors -/

def colorNames : List String := [
  "default",
  "black", "red", "green", "yellow", "blue", "magenta", "cyan", "white", "bright_black",
  "bright_red", "bright_green", "bright_yellow", "bright_blue", "bright_magenta", "bright_cyan",
  "bright_white", "grey0", "gray0", "navy_blue", "dark_blue", "blue3", "blue1", "dark_green",
  "deep_sky_blue4", "dodger_blue3", "dodger_blue2", "green4", "spring_green4", "turquoise4",
  "deep_sky_blue3", "dodger_blue1", "green3", "spring_green3", "dark_cyan", "light_sea_green",
  "deep_sky_blue2", "deep_sky_blue1", "spring_green2", "cyan3", "dark_turquoise", "turquoise2",
  "green1", "spring_green1", "medium_spring_green", "cyan2", "cyan1", "dark_red", "deep_pink4",
  "purple4", "purple3", "blue_violet", "orange4", "grey37", "gray37", "medium_purple4",
  "slate_blue3", "royal_blue1", "chartreuse4", "dark_sea_green4", "pale_turquoise4",
  "steel_blue", "steel_blue3", "cornflower_blue", "chartreuse3", "cadet_blue", "sky_blue3",
  "steel_blue1", "pale_green3", "sea_green3", "aquamarine3", "medium_turquoise", "chartreuse2",
  "sea_green2", "sea_green1", "aquamarine1", "dark_slate_gray2", "dark_magenta", "dark_violet",
  "purple", "light_pink4", "plum4", "medium_purple3", "slate_blue1", "yellow4", "wheat4",
  "grey53", "gray53", "light_slate_grey", "light_slate_gray", "medium_purple",
  "light_slate_blue", "dark_olive_green3", "dark_sea_green", "light_sky_blue3", "sky_blue2",
  "dark_sea_green3", "dark_slate_gray3", "sky_blue1", "chartreuse1", "light_green",
  "pale_green1", "dark_slate_gray1", "red3", "medium_violet_red", "magenta3", "dark_orange3",
  "indian_red", "hot_pink3", "medium_orchid3", "medium_orchid", "medium_purple2",
  "dark_goldenrod", "light_salmon3", "rosy_brown", "grey63", "gray63", "medium_purple1", "gold3",
  "dark_khaki", "navajo_white3", "grey69", "gray69", "light_steel_blue3", "light_steel_blue",
  "yellow3", "dark_sea_green2", "light_cyan3", "light_sky_blue1", "green_yellow",
  "dark_olive_green2", "dark_sea_green1", "pale_turquoise1", "deep_pink3", "magenta2",
  "hot_pink2", "orchid", "medium_orchid1", "orange3", "light_pink3", "pink3", "plum3", "violet",
  "light_goldenrod3", "tan", "misty_rose3", "thistle3", "plum2", "khaki3", "light_goldenrod2",
  "light_yellow3", "grey84", "gray84", "light_steel_blue1", "yellow2", "dark_olive_green1",
  "honeydew2", "light_cyan1", "red1", "deep_pink2", "deep_pink1", "magenta1", "orange_red1",
  "indian_red1", "hot_pink", "dark_orange", "salmon1", "light_coral", "pale_violet_red1",
  "orchid2", "orchid1", "orange1", "sandy_brown", "light_salmon1", "light_pink1", "pink1",
  "plum1", "gold1", "navajo_white1", "misty_rose1", "thistle1", "yellow1", "light_goldenrod1",
  "khaki1", "wheat1", "cornsilk1", "grey100", "gray100", "grey3", "gray3", "grey7", "gray7",
  "grey11", "gray11", "grey15", "gray15", "grey19", "gray19", "grey23", "gray23", "grey27",
  "gray27", "grey30", "gray30", "grey35", "gray35", "grey39", "gray39", "grey42", "gray42",
  "grey46", "gray46", "grey50", "gray50", "grey54", "gray54", "grey58", "gray58", "grey62",
  "gray62", "grey66", "gray66", "grey70", "gray70", "grey74", "gray74", "grey78", "gray78",
  "grey82", "gray82", "grey85", "gray85", "grey89", "gray89", "grey93", "gray93"]

inductive ComponentFault where
  | empty
  | overlong (number : OverlongNumber)
deriving DecidableEq, Repr

def ComponentFault.message : ComponentFault → Text
  | empty => "invalid literal for int() with base 10: ''".toList
  | overlong number => number.message.toList

def readComponent (digits : Text) : Except ComponentFault Nat :=
  if digits.isEmpty then .error .empty else (numberOf digits).mapError .overlong

def inBrackets? (word : String) (text : Text) : Option Text :=
  let opening := word.toList ++ ['(']
  if opening.isPrefixOf text && text.getLast? == some ')' && opening.length < text.length then
    some ((text.drop opening.length).dropLast)
  else none

/-- Is the text a number sign and six hexadecimal digits in lower case? -/
def isHexColor : Text → Bool
  | '#' :: digits =>
    digits.length == 6 && digits.all fun c => c.isDigit || ('a' ≤ c && c ≤ 'f')
  | _ => false

/-- Are these one to three ASCII digits of a number up to 255? -/
def isColorNumber (digits : Text) : Bool :=
  !digits.isEmpty && digits.length ≤ 3 && digits.all Char.isDigit && decimalValue digits ≤ 255

/-- Are these three components up to 255 between commas? A component without digits cannot be
read at all. -/
def areComponents (text : Text) : Except ComponentFault Bool :=
  if text.isEmpty || !text.all fun c => isDigit c || c == ',' then .ok false
  else
    match cutAt ',' text with
    | [red, green, blue] => do
      let values ← [red, green, blue].mapM readComponent
      return values.all (· ≤ 255)
    | _ => .ok false

/-- Does a word without blanks, in lower case, write a color? -/
def isColor (word : Text) : Except ComponentFault Bool :=
  if colorNames.contains (String.ofList word) || isHexColor word then .ok true
  else
    match inBrackets? "color" word, inBrackets? "rgb" word with
    | some digits, _ => .ok (isColorNumber digits)
    | none, some components => areComponents components
    | none, none => .ok false

/-! ## Styles -/

/-- Short names of attributes. -/
def attributeSynonyms : List (String × String) :=
  [("b", "bold"), ("d", "dim"), ("i", "italic"), ("u", "underline"), ("r", "reverse"),
    ("c", "conceal"), ("s", "strike"), ("uu", "underline2"), ("o", "overline")]

def attributeNames : List String :=
  ["bold", "dim", "italic", "underline", "blink", "blink2", "reverse", "conceal", "strike",
    "underline2", "frame", "encircle", "overline"]

structure Style where
  /-- Attributes with whether they are given or taken away, the last word first. -/
  attributes : List (String × Bool) := []
  color : Option Text := none
  background : Option Text := none
  link : Option Text := none
deriving DecidableEq, Repr

def attribute? (word : Text) : Option String :=
  let full := (attributeSynonyms.lookup (String.ofList word)).getD (String.ofList word)
  if attributeNames.contains full then some full else none

namespace Style

/-- Add what a word says on its own. Nothing is left if it is no attribute and no color. -/
def addWord (style : Style) (word : Text) : Except ComponentFault (Option Style) :=
  let word := lower word
  match attribute? word with
  | some name => .ok (some { style with attributes := (name, true) :: style.attributes })
  | none => do
    return if ← isColor word then some { style with color := some word } else none

/-- Is the word one that needs another one behind it? -/
def leads (word : Text) : Bool :=
  ["on", "not", "link"].contains (String.ofList (lower word))

/-- Add what a leading word says about the next one. Only colors may be written in upper
case there. -/
def addPair (style : Style) (leading word : Text) : Except ComponentFault (Option Style) :=
  match String.ofList (lower leading) with
  | "on" => do
    let word := lower word
    return if ← isColor word then some { style with background := some word } else none
  | "not" =>
    .ok ((attribute? word).map fun name =>
      { style with attributes := (name, false) :: style.attributes })
  | _ => .ok (some { style with link := some word })

def addWords (style : Style) : List Text → Except ComponentFault (Option Style)
  | [] => .ok (some style)
  | [word] => if leads word then .ok none else style.addWord word
  | word :: next :: rest =>
    if leads word then
      match style.addPair word next with
      | .ok (some style) => style.addWords rest
      | refused => refused
    else
      match style.addWord word with
      | .ok (some style) => style.addWords (next :: rest)
      | refused => refused

def attributeWords (style : Style) (name : String) : List Text :=
  match style.attributes.lookup name with
  | none => []
  | some true => [name.toList]
  | some false => ["not".toList, name.toList]

/-- The words that write a style, in a fixed order. -/
def words (style : Style) : List Text :=
  attributeNames.flatMap style.attributeWords ++ style.color.toList
    ++ (style.background.toList.flatMap fun word => ["on".toList, word])
    ++ (style.link.toList.flatMap fun word => ["link".toList, word])

end Style

def wordsBetweenBlanks (text : Text) : List Text :=
  (cutAt ' ' (text.map fun c => if isBlank c then ' ' else c)).filter fun word => !word.isEmpty

/-- The name of the style that a text writes. A text that writes none stands for itself, in
lower case and without blanks around it. -/
def styleName (text : Text) : Except ComponentFault Text :=
  let given := wordsBetweenBlanks text
  if given = ["none".toList] then .ok "none".toList
  else do
    match ← ({} : Style).addWords given with
    | some style => return joinWith [' '] style.words
    | none => return lower (trim text)

/-- Read the words for a style where it is used. Words that write none are passed over. -/
def checkStyle (text : Text) : Except ComponentFault Unit :=
  (({} : Style).addWords (wordsBetweenBlanks text)).map fun _ => ()

end DiagnosticMarkers.Report
