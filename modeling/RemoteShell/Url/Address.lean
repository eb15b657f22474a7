import RemoteShell.Text

set_option autoImplicit false

namespace RemoteShell.Url

def isAddressPart (s : Text) : Bool :=
  Text.isWhole s && s.length ≤ 3 && Text.readDigits s ≤ 255 &&
    (s.length = 1 || s.head? ≠ some '0')

def isAddress (s : Text) : Bool :=
  let parts := Text.cut '.' s
  parts.length = 4 && parts.all isAddressPart

/-- A reading of a text as numbers with some character between each two: how many such characters
were passed, and whether a number has begun since. -/
abbrev Reading := Nat × Bool

/-- The readings after one more character. A digit may also stand between two numbers. -/
def readings (found : List Reading) (c : Char) : List Reading :=
  (found.flatMap fun (passed, hasBegun) =>
    (if Text.isDigit c then [(passed, true)] else []) ++
      if hasBegun && passed < 3 then [(passed + 1, false)] else []).eraseDups

/-- Whether a text can be read as four numbers with some character between each two. -/
def looksLikeAddress (s : Text) : Bool := (s.foldl readings [(0, false)]).contains (3, true)

def isHexPart (s : Text) : Bool :=
  !s.isEmpty && s.length ≤ 4 && s.all fun c => (Text.hexValue? c).isSome

def withoutNumbers (parts : List Text) : List Text :=
  if parts.getLast?.any isAddress then parts.dropLast ++ [['0'], ['0']] else parts

def side (parts : List Text) : List Text := if parts = [[]] then [] else parts

/-- Eight parts, or fewer with two colons for a row of zeros. -/
def areParts (parts : List Text) : Bool :=
  match (parts.drop 1).dropLast.findIdx? List.isEmpty with
  | some index =>
    let given := side (parts.take (index + 1)) ++ side (parts.drop (index + 2))
    given.length ≤ 7 && given.all isHexPart
  | none => parts.length = 8 && parts.all isHexPart

def isLongAddress (s : Text) : Bool :=
  let (address, zone) := Text.cutOnce '%' s
  let parts := Text.cut ':' address
  3 ≤ parts.length && areParts (withoutNumbers parts) &&
    zone.all fun z => !z.isEmpty && !z.contains '%'

end RemoteShell.Url
