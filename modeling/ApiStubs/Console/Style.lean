import ApiStubs.Number.Digits
import ApiStubs.Text.Blank
import ApiStubs.Text.Digit
import ApiStubs.Text.Lower

/-! Styles of console text, and their normal form: attributes in a fixed order, then the color, what
it stands on and a link. Two tags belong together if their styles have the same normal form. -/

namespace ApiStubs

inductive Attribute
  | bold
  | dim
  | italic
  | underline
  | blink
  | blink2
  | reverse
  | conceal
  | strike
  | underline2
  | frame
  | encircle
  | overline
  deriving DecidableEq

namespace Attribute

def all : List Attribute :=
  [bold, dim, italic, underline, blink, blink2, reverse, conceal, strike, underline2, frame,
    encircle, overline]

def name : Attribute → Text
  | bold => "bold"
  | dim => "dim"
  | italic => "italic"
  | underline => "underline"
  | blink => "blink"
  | blink2 => "blink2"
  | reverse => "reverse"
  | conceal => "conceal"
  | strike => "strike"
  | underline2 => "underline2"
  | frame => "frame"
  | encircle => "encircle"
  | overline => "overline"

def shortNames : List (Text × Attribute) :=
  [("b", bold), ("d", dim), ("i", italic), ("u", underline), ("r", reverse), ("c", conceal),
    ("s", strike), ("uu", underline2), ("o", overline)]

def ofName? (word : Text) : Option Attribute :=
  all.find? (·.name == word) <|> shortNames.lookup word

end Attribute

structure Style where
  attributes : List (Attribute × Bool)
  color : Option Text
  ground : Option Text
  link : Option Text

namespace Style

inductive Fault
  | unknown
  | noNumber
  deriving DecidableEq

def plain : Style := ⟨[], none, none, none⟩

def colorLines : List String :=
  ["aquamarine1 aquamarine3 black blue blue1 blue3 blue_violet bright_black bright_blue",
   "bright_cyan bright_green bright_magenta bright_red bright_white bright_yellow cadet_blue",
   "chartreuse1 chartreuse2 chartreuse3 chartreuse4 cornflower_blue cornsilk1 cyan cyan1 cyan2",
   "cyan3 dark_blue dark_cyan dark_goldenrod dark_green dark_khaki dark_magenta dark_olive_green1",
   "dark_olive_green2 dark_olive_green3 dark_orange dark_orange3 dark_red dark_sea_green",
   "dark_sea_green1 dark_sea_green2 dark_sea_green3 dark_sea_green4 dark_slate_gray1",
   "dark_slate_gray2 dark_slate_gray3 dark_turquoise dark_violet deep_pink1 deep_pink2 deep_pink3",
   "deep_pink4 deep_sky_blue1 deep_sky_blue2 deep_sky_blue3 deep_sky_blue4 dodger_blue1",
   "dodger_blue2 dodger_blue3 gold1 gold3 gray0 gray100 gray11 gray15 gray19 gray23 gray27 gray3",
   "gray30 gray35 gray37 gray39 gray42 gray46 gray50 gray53 gray54 gray58 gray62 gray63 gray66",
   "gray69 gray7 gray70 gray74 gray78 gray82 gray84 gray85 gray89 gray93 green green1 green3",
   "green4 green_yellow grey0 grey100 grey11 grey15 grey19 grey23 grey27 grey3 grey30 grey35",
   "grey37 grey39 grey42 grey46 grey50 grey53 grey54 grey58 grey62 grey63 grey66 grey69 grey7",
   "grey70 grey74 grey78 grey82 grey84 grey85 grey89 grey93 honeydew2 hot_pink hot_pink2 hot_pink3",
   "indian_red indian_red1 khaki1 khaki3 light_coral light_cyan1 light_cyan3 light_goldenrod1",
   "light_goldenrod2 light_goldenrod3 light_green light_pink1 light_pink3 light_pink4",
   "light_salmon1 light_salmon3 light_sea_green light_sky_blue1 light_sky_blue3 light_slate_blue",
   "light_slate_gray light_slate_grey light_steel_blue light_steel_blue1 light_steel_blue3",
   "light_yellow3 magenta magenta1 magenta2 magenta3 medium_orchid medium_orchid1 medium_orchid3",
   "medium_purple medium_purple1 medium_purple2 medium_purple3 medium_purple4 medium_spring_green",
   "medium_turquoise medium_violet_red misty_rose1 misty_rose3 navajo_white1 navajo_white3",
   "navy_blue orange1 orange3 orange4 orange_red1 orchid orchid1 orchid2 pale_green1 pale_green3",
   "pale_turquoise1 pale_turquoise4 pale_violet_red1 pink1 pink3 plum1 plum2 plum3 plum4 purple",
   "purple3 purple4 red red1 red3 rosy_brown royal_blue1 salmon1 sandy_brown sea_green1 sea_green2",
   "sea_green3 sky_blue1 sky_blue2 sky_blue3 slate_blue1 slate_blue3 spring_green1 spring_green2",
   "spring_green3 spring_green4 steel_blue steel_blue1 steel_blue3 tan thistle1 thistle3",
   "turquoise2 turquoise4 violet wheat1 wheat4 white yellow yellow1 yellow2 yellow3 yellow4"]

def colorNames : List Text := colorLines.flatMap fun line : String => Text.words line

def isHex (c : CodePoint) : Bool := Digits.isDigit c || ('a' ≤ c && c ≤ 'f')

def inBrackets? (word text : Text) : Option Text :=
  if (word ++ "(").isPrefixOf text && text.getLast? == some (.char ')') then
    some (text.drop (word.length + 1)).dropLast
  else none

def number? (text : Text) : Option Nat :=
  text.foldlM (fun n c => (Text.digitValue? c).map (n * 10 + ·)) 0

def numbered (digits : Text) : Except Fault Unit :=
  if digits.isEmpty || 3 < digits.length || !digits.all Digits.isDigit then .error .unknown
  else if Digits.value digits ≤ 255 then .ok ()
  else .error .unknown

/-- Three parts, each of which must be a number before their sizes count. -/
def mixed (text : Text) : Except Fault Unit :=
  let parts := Text.splitWhen (fun c : CodePoint => c == ',') text
  if text.isEmpty || !text.all (fun c => c == ',' || Text.isDecimalDigit c) then .error .unknown
  else if parts.length ≠ 3 then .error .unknown
  else if parts.any fun part => part.isEmpty || Digits.limit < part.length then .error .noNumber
  else if parts.all fun part => (number? part).any (· ≤ 255) then .ok ()
  else .error .unknown

def checkColor (word : Text) : Except Fault Unit :=
  if word = "default" || colorNames.contains word then .ok ()
  else match word with
    | .char '#' :: digits =>
        if digits.length = 6 && digits.all isHex then .ok () else .error .unknown
    | _ => match inBrackets? "color" word, inBrackets? "rgb" word with
      | some digits, _ => numbered digits
      | none, some parts => mixed parts
      | none, none => .error .unknown

def colorName (word : Text) : Except Fault Text := do
  let word := Text.lower word
  checkColor word
  return word

def set (s : Style) (a : Attribute) (on : Bool) : Style :=
  { s with attributes := (a, on) :: s.attributes }

/-- Adds the words of a definition one by one; of two that disagree the later one counts. -/
def add : Style → List Text → Except Fault Style
  | s, [] => .ok s
  | s, word :: rest =>
      let name := Text.lower word
      if name = "on" then
        match rest with
        | [] => .error .unknown
        | next :: rest => do add { s with ground := some (← colorName next) } rest
      else if name = "not" then
        match rest with
        | [] => .error .unknown
        | next :: rest =>
            match Attribute.ofName? next with
            | some a => add (s.set a false) rest
            | none => .error .unknown
      else if name = "link" then
        match rest with
        | [] => .error .unknown
        | next :: rest => add { s with link := some next } rest
      else match Attribute.ofName? name with
        | some a => add (s.set a true) rest
        | none => do add { s with color := some (← colorName word) } rest

def ofDefinition (text : Text) : Except Fault Style :=
  if Text.trim text = "none" then .ok plain else add plain (Text.words text)

def attributeWords (s : Style) : List Text :=
  Attribute.all.flatMap fun a =>
    match s.attributes.lookup a with
    | some true => [a.name]
    | some false => ["not", a.name]
    | none => []

def render (s : Style) : Text :=
  let ground := s.ground.map fun color : Text => "on " ++ color
  let link := s.link.map fun target : Text => "link " ++ target
  let words := s.attributeWords ++ s.color.toList ++ ground.toList ++ link.toList
  if words.isEmpty then "none" else Text.join " " words

/-- The normal form of a definition; one that is no style is only trimmed and put in lower case. -/
def normal (text : Text) : Except Fault Text :=
  match ofDefinition text with
  | .ok s => .ok s.render
  | .error .unknown => .ok (Text.lower (Text.trim text))
  | .error .noNumber => .error .noNumber

end Style
end ApiStubs
