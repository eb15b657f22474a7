import RemoteShell.Number.Double
import RemoteShell.Number.Limit
import RemoteShell.Text.Decimal

set_option autoImplicit false

namespace RemoteShell.Numeral

def takeSign : Text → Bool × Text
  | '-' :: rest => (true, rest)
  | '+' :: rest => (false, rest)
  | s => (false, s)

def signed (negative : Bool) (digits : Text) : Int :=
  if negative then -Text.readDigits digits else Text.readDigits digits

def exponent? : Text → Option Int
  | [] => some 0
  | c :: rest =>
    if c = 'e' ∨ c = 'E' then
      let (negative, digits) := takeSign rest
      if Text.isWhole digits then some (signed negative digits) else none
    else none

/-- A decimal without its sign: at least one digit, with a point before, among or behind them. -/
def unsigned? (negative : Bool) (s : Text) : Option Double :=
  let whole := s.takeWhile Text.isDigit
  let rest := s.dropWhile Text.isDigit
  let more := if rest.head? = some '.' then rest.drop 1 else []
  let fraction := more.takeWhile Text.isDigit
  let rest := if rest.head? = some '.' then more.dropWhile Text.isDigit else rest
  if whole.isEmpty && fraction.isEmpty then none
  else
    (exponent? rest).map fun e =>
      Double.ofDecimal negative (whole ++ fraction) (e - fraction.length)

/-- A decimal in plain digits, or one of `inf`, `infinity` and `nan` in any case. -/
def decimal? (s : Text) : Option Double :=
  let (negative, body) := takeSign s
  let word := Text.lowerAscii body
  if word = "inf".toList ∨ word = "infinity".toList then some (.infinite negative)
  else if word = "nan".toList then some .nan
  else unsigned? negative body

def whole? (s : Text) : Option Int :=
  let (negative, digits) := takeSign s
  if Text.isWhole digits ∧ digits.length ≤ mostDigits then some (signed negative digits) else none

/-- A text without its underscores, each of which has to stand between two digits. -/
def ungrouped? : Text → Option Text
  | [] => some []
  | '_' :: _ => none
  | c :: '_' :: d :: rest =>
    if Text.isDigit c && Text.isDigit d then (ungrouped? (d :: rest)).map (c :: ·) else none
  | c :: rest => (ungrouped? rest).map (c :: ·)

def plain? (s : Text) : Option Text := ungrouped? ((Text.trim s).map Text.plainDigit)

def double? (s : Text) : Option Double := (plain? s).bind decimal?

def integer? (s : Text) : Option Int := (plain? s).bind whole?

end RemoteShell.Numeral
