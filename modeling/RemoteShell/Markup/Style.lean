import RemoteShell.Number.Limit
import RemoteShell.Text.Case
import RemoteShell.Text.Decimal

set_option autoImplicit false

namespace RemoteShell.Style

inductive Attribute where
  | bold | dim | italic | underline | blink | blink2 | reverse | conceal | strike | underline2
  | frame | encircle | overline
  deriving DecidableEq, Repr

def Attribute.all : List Attribute :=
  [.bold, .dim, .italic, .underline, .blink, .blink2, .reverse, .conceal, .strike, .underline2,
    .frame, .encircle, .overline]

def Attribute.name : Attribute → Text
  | .bold => "bold".toList
  | .dim => "dim".toList
  | .italic => "italic".toList
  | .underline => "underline".toList
  | .blink => "blink".toList
  | .blink2 => "blink2".toList
  | .reverse => "reverse".toList
  | .conceal => "conceal".toList
  | .strike => "strike".toList
  | .underline2 => "underline2".toList
  | .frame => "frame".toList
  | .encircle => "encircle".toList
  | .overline => "overline".toList

def abbreviations : List (String × Attribute) :=
  [("b", .bold), ("d", .dim), ("i", .italic), ("u", .underline), ("r", .reverse), ("c", .conceal),
    ("s", .strike), ("uu", .underline2), ("o", .overline)]

def attribute? (word : Text) : Option Attribute :=
  match abbreviations.find? fun a => a.1.toList == word with
  | some a => some a.2
  | none => Attribute.all.find? fun a => a.name == word

def colorNames : List String :=
  ["default", "black", "red", "green", "yellow", "blue", "magenta", "cyan", "white",
    "bright_black", "bright_red", "bright_green", "bright_yellow", "bright_blue", "bright_magenta",
    "bright_cyan", "bright_white", "grey0", "gray0", "navy_blue", "dark_blue", "blue3", "blue1",
    "dark_green", "deep_sky_blue4", "dodger_blue3", "dodger_blue2", "green4", "spring_green4",
    "turquoise4", "deep_sky_blue3", "dodger_blue1", "green3", "spring_green3", "dark_cyan",
    "light_sea_green", "deep_sky_blue2", "deep_sky_blue1", "spring_green2", "cyan3",
    "dark_turquoise", "turquoise2", "green1", "spring_green1", "medium_spring_green", "cyan2",
    "cyan1", "dark_red", "deep_pink4", "purple4", "purple3", "blue_violet", "orange4", "grey37",
    "gray37", "medium_purple4", "slate_blue3", "royal_blue1", "chartreuse4", "dark_sea_green4",
    "pale_turquoise4", "steel_blue", "steel_blue3", "cornflower_blue", "chartreuse3", "cadet_blue",
    "sky_blue3", "steel_blue1", "pale_green3", "sea_green3", "aquamarine3", "medium_turquoise",
    "chartreuse2", "sea_green2", "sea_green1", "aquamarine1", "dark_slate_gray2", "dark_magenta",
    "dark_violet", "purple", "light_pink4", "plum4", "medium_purple3", "slate_blue1", "yellow4",
    "wheat4", "grey53", "gray53", "light_slate_grey", "light_slate_gray", "medium_purple",
    "light_slate_blue", "dark_olive_green3", "dark_sea_green", "light_sky_blue3", "sky_blue2",
    "dark_sea_green3", "dark_slate_gray3", "sky_blue1", "chartreuse1", "light_green",
    "pale_green1", "dark_slate_gray1", "red3", "medium_violet_red", "magenta3", "dark_orange3",
    "indian_red", "hot_pink3", "medium_orchid3", "medium_orchid", "medium_purple2",
    "dark_goldenrod", "light_salmon3", "rosy_brown", "grey63", "gray63", "medium_purple1", "gold3",
    "dark_khaki", "navajo_white3", "grey69", "gray69", "light_steel_blue3", "light_steel_blue",
    "yellow3", "dark_sea_green2", "light_cyan3", "light_sky_blue1", "green_yellow",
    "dark_olive_green2", "dark_sea_green1", "pale_turquoise1", "deep_pink3", "magenta2",
    "hot_pink2", "orchid", "medium_orchid1", "orange3", "light_pink3", "pink3", "plum3", "violet",
    "light_goldenrod3", "tan", "misty_rose3", "thistle3", "plum2", "khaki3", "light_goldenrod2",
    "light_yellow3", "grey84", "gray84", "light_steel_blue1", "yellow2", "dark_olive_green1",
    "honeydew2", "light_cyan1", "red1", "deep_pink2", "deep_pink1", "magenta1", "orange_red1",
    "indian_red1", "hot_pink", "dark_orange", "salmon1", "light_coral", "pale_violet_red1",
    "orchid2", "orchid1", "orange1", "sandy_brown", "light_salmon1", "light_pink1", "pink1",
    "plum1", "gold1", "navajo_white1", "misty_rose1", "thistle1", "yellow1", "light_goldenrod1",
    "khaki1", "wheat1", "cornsilk1", "grey100", "gray100", "grey3", "gray3", "grey7", "gray7",
    "grey11", "gray11", "grey15", "gray15", "grey19", "gray19", "grey23", "gray23", "grey27",
    "gray27", "grey30", "gray30", "grey35", "gray35", "grey39", "gray39", "grey42", "gray42",
    "grey46", "gray46", "grey50", "gray50", "grey54", "gray54", "grey58", "gray58", "grey62",
    "gray62", "grey66", "gray66", "grey70", "gray70", "grey74", "gray74", "grey78", "gray78",
    "grey82", "gray82", "grey85", "gray85", "grey89", "gray89", "grey93", "gray93"]

def enclosed? (opening word : Text) : Option Text :=
  if Text.hasPrefix opening word && word.getLast? = some ')' then
    some (word.drop opening.length).dropLast
  else none

def isHexColor : Text → Bool
  | '#' :: digits => digits.length = 6 && digits.all fun c => (Text.hexValue? c).isSome
  | _ => false

def isPaletteColor (word : Text) : Bool :=
  match enclosed? "color(".toList word with
  | some digits =>
    !digits.isEmpty && digits.length ≤ 3 && digits.all Text.isDigit && Text.readDigits digits ≤ 255
  | none => false

inductive Fault where
  | emptyComponent
  | longComponent (digits : Nat)
  deriving DecidableEq, Repr

def Fault.message : Fault → Text
  | .emptyComponent => "invalid literal for int() with base 10: ''".toList
  | .longComponent digits => Numeral.longMessage digits

def component (digits : Text) : Except Fault Nat :=
  if digits.isEmpty then .error .emptyComponent
  else if Numeral.mostDigits < digits.length then .error (.longComponent digits.length)
  else .ok (Text.readDigits (digits.map Text.plainDigit))

/-- Three components of at most 255, in the digits of any script. -/
def isTripletColor (word : Text) : Except Fault Bool :=
  match enclosed? "rgb(".toList word with
  | some inner =>
    if inner.isEmpty || !inner.all (fun c => Text.isDecimal c || c = ',') then .ok false
    else
      match Text.cut ',' inner with
      | [red, green, blue] => do
        let values ← [red, green, blue].mapM component
        return values.all fun n => decide (n ≤ 255)
      | _ => .ok false
  | none => .ok false

def isColor (word : Text) : Except Fault Bool :=
  if colorNames.any (fun n => n.toList == word) || isHexColor word || isPaletteColor word then
    .ok true
  else isTripletColor word

structure Definition where
  attributes : List (Attribute × Bool)
  color : Option Text
  background : Option Text
  link : Option Text

def Definition.empty : Definition := ⟨[], none, none, none⟩

def Definition.setTo (d : Definition) (a : Attribute) (on : Bool) : Definition :=
  { d with attributes := (a, on) :: d.attributes }

def Definition.read (d : Definition) : List Text → Except Fault (Option Definition)
  | [] => .ok (some d)
  | word :: rest =>
    let lowered := Text.lower word
    if lowered = "on".toList then
      match rest with
      | color :: rest =>
        match isColor (Text.lower color) with
        | .ok true => read { d with background := some (Text.lower color) } rest
        | .ok false => .ok none
        | .error fault => .error fault
      | [] => .ok none
    else if lowered = "not".toList then
      match rest with
      | name :: rest =>
        match attribute? name with
        | some a => read (d.setTo a false) rest
        | none => .ok none
      | [] => .ok none
    else if lowered = "link".toList then
      match rest with
      | target :: rest => read { d with link := some target } rest
      | [] => .ok none
    else
      match attribute? lowered with
      | some a => read (d.setTo a true) rest
      | none =>
        match isColor lowered with
        | .ok true => read { d with color := some lowered } rest
        | .ok false => .ok none
        | .error fault => .error fault

def Definition.attributeWords (d : Definition) (a : Attribute) : List Text :=
  match d.attributes.lookup a with
  | some true => [a.name]
  | some false => ["not".toList, a.name]
  | none => []

def Definition.words (d : Definition) : List Text :=
  Attribute.all.flatMap d.attributeWords ++ d.color.toList ++
    (d.background.elim [] fun c => ["on".toList, c]) ++ d.link.elim [] fun l => ["link".toList, l]

def wordsOf (s : Text) : List Text :=
  (Text.cut ' ' (s.map fun c => if Text.isBlank c then ' ' else c)).filter fun w => !w.isEmpty

/-- The one name of a style; a text that names no style stands for itself in lower case. -/
def canonical (name : Text) : Except Fault Text :=
  (Definition.empty.read (wordsOf name)).map fun d =>
    match d with
    | some d => if d.words.isEmpty then "none".toList else Text.glue [' '] d.words
    | none => Text.lower (Text.strip name)

/-- Checks the colours of a style; a text that names no style has none. -/
def check (style : Text) : Except Fault Unit :=
  (Definition.empty.read (wordsOf style)).map fun _ => ()

end RemoteShell.Style
