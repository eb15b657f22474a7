import RemoteShell.Text

/-! Double-precision numbers as exact data: the nearest number to a ratio, reading a decimal, and
the shortest decimal that reads back. -/

set_option autoImplicit false

namespace RemoteShell

/-- A finite number is `mantissa * 2 ^ exponent` with its sign. It is kept with a mantissa of 53
bits, or with the least exponent -1074. -/
inductive Double where
  | nan
  | infinite (negative : Bool)
  | finite (negative : Bool) (mantissa : Nat) (exponent : Int)
  deriving DecidableEq, Repr

namespace Double

def leastExponent : Int := -1074

def greatestExponent : Int := 971

def zero (negative : Bool) : Double := .finite negative 0 leastExponent

def isZero : Double → Bool
  | .finite _ m _ => m == 0
  | _ => false

def isFinite : Double → Bool
  | .finite .. => true
  | _ => false

/-- All mantissas lie below this, and those with the full number of bits from the next one on. -/
def mantissaEnd : Nat := Nat.pow 2 53

def mantissaStart : Nat := Nat.pow 2 52

/-- The nearest whole number to a ratio; a half goes to the even neighbour. -/
def roundEven (num den : Nat) : Nat :=
  let low := num / den
  let rest := num % den
  if 2 * rest < den then low
  else if den < 2 * rest then low + 1
  else low + low % 2

def scaleDown (base : Nat) (num den : Nat) (exponent : Int) : Nat × Nat :=
  if exponent < 0 then (num * Nat.pow base (-exponent).toNat, den)
  else (num, den * Nat.pow base exponent.toNat)

/-- The double nearest to a ratio of whole numbers, ties to even. -/
def ofRatio (negative : Bool) (num den : Nat) : Double :=
  if num = 0 then zero negative
  else
    let guess : Int := (num.log2 : Int) - den.log2 - 53
    let (n, d) := scaleDown 2 num den guess
    let fitted := if n / d < mantissaEnd then guess else guess + 1
    let exponent := max fitted leastExponent
    let (n, d) := scaleDown 2 num den exponent
    let mantissa := roundEven n d
    let (mantissa, exponent) :=
      if mantissa = mantissaEnd then (mantissaStart, exponent + 1) else (mantissa, exponent)
    if greatestExponent < exponent then .infinite negative else .finite negative mantissa exponent

def ofInt (n : Int) : Double := ofRatio (n < 0) n.natAbs 1

def ratio? : Double → Option (Int × Nat)
  | .finite negative m e =>
    let (n, d) := scaleDown 2 m 1 (-e)
    some (if negative then -(n : Int) else n, d)
  | _ => none

def whole? (x : Double) : Option Int :=
  match x.ratio? with
  | some (n, d) => if n % d = 0 then some (n / d) else none
  | none => none

/-- Equality of numbers: the zeros are equal and NaN equals nothing. -/
def same (x y : Double) : Bool :=
  match x, y with
  | .infinite a, .infinite b => a == b
  | .finite _ 0 _, .finite _ 0 _ => true
  | .finite a m e, .finite b n f => a == b && m == n && e == f
  | _, _ => false

def ofDecimal (negative : Bool) (digits : Text) (exponent : Int) : Double :=
  let significant := digits.dropWhile (· = '0')
  let reach : Int := significant.length + exponent
  if significant.isEmpty || reach < -400 then zero negative
  else if 400 < reach then .infinite negative
  else
    let (num, den) := scaleDown 10 (Text.readDigits significant) 1 (-exponent)
    ofRatio negative num den

/-- A decimal without its sign: the digits and the power of ten of the last one. -/
structure Shortest where
  digits : Text
  exponent : Int
  deriving DecidableEq, Repr

namespace Shortest

def trim (s : Shortest) : Shortest :=
  let kept := (s.digits.reverse.dropWhile (· = '0')).reverse
  ⟨kept, s.exponent + (s.digits.length - kept.length : Nat)⟩

end Shortest

def leadingPlace (m : Nat) (e : Int) : Int :=
  let guess := Int.fdiv (((m.log2 : Int) + e) * 30103) 100000
  let (n, d) := scaleDown 2 m 1 (-e)
  let (n, d) := scaleDown 10 n d (guess + 1)
  if d ≤ n then guess + 1 else guess

/-- Whether `c * 10 ^ place` rounds to `m * 2 ^ e`: it lies between the halfway points to the
neighbours, which themselves count when the mantissa is even. -/
def reads (m : Nat) (e : Int) (c : Nat) (place : Int) : Bool :=
  -- everything in quarters of a unit in the last place
  let (n, d) := scaleDown 10 c 1 (-place)
  let (n, d) := scaleDown 2 n d (e - 2)
  let below := if m = mantissaStart ∧ leastExponent < e then 4 * m - 1 else 4 * m - 2
  let above := 4 * m + 2
  if m % 2 = 0 then below * d ≤ n && n ≤ above * d else below * d < n && n < above * d

/-- The best decimal with a given number of digits that reads back, if there is one. A tie goes to
the even digit. -/
def withDigits? (m : Nat) (e : Int) (lead : Int) (count : Nat) : Option Shortest :=
  let place := lead - count + 1
  let (n, d) := scaleDown 2 m 1 (-e)
  let (n, d) := scaleDown 10 n d place
  let low := n / d
  let lowReads := reads m e low place
  let highReads := reads m e (low + 1) place
  let pick := fun (c : Nat) => some (Shortest.trim ⟨Text.ofNat c, place⟩)
  if lowReads && highReads then pick (roundEven n d)
  else if lowReads then pick low
  else if highReads then pick (low + 1)
  else none

/-- The fewest digits that read back, for a positive number; seventeen always do. -/
def shortest (m : Nat) (e : Int) : Shortest :=
  let lead := leadingPlace m e
  let found := (List.range 17).findSome? fun k => withDigits? m e lead (k + 1)
  found.getD ⟨Text.ofNat m, 0⟩

structure Names where
  notANumber : Text
  infinity : Text

def plainNames : Names := ⟨"nan".toList, "inf".toList⟩

def jsonNames : Names := ⟨"NaN".toList, "Infinity".toList⟩

def signed (negative : Bool) (s : Text) : Text := if negative then '-' :: s else s

/-- Positional from the fourth place after the point up to the sixteenth before it, with at least
one digit after the point; otherwise one digit, the rest after a point, and an exponent with its
sign and at least two digits. -/
def layout (s : Shortest) : Text :=
  let count : Int := s.digits.length
  let lead := s.exponent + count - 1
  if -4 ≤ lead ∧ lead < 16 then
    if 0 ≤ s.exponent then s.digits ++ List.replicate s.exponent.toNat '0' ++ ['.', '0']
    else if lead < 0 then '0' :: '.' :: List.replicate (-lead - 1).toNat '0' ++ s.digits
    else
      let whole := (lead + 1).toNat
      s.digits.take whole ++ '.' :: s.digits.drop whole
  else
    let power := Text.ofNat lead.natAbs
    let power := if power.length < 2 then '0' :: power else power
    let sign := if lead < 0 then '-' else '+'
    s.digits.take 1 ++ (if 1 < count then '.' :: s.digits.drop 1 else []) ++ 'e' :: sign :: power

def write (names : Names) : Double → Text
  | .nan => names.notANumber
  | .infinite negative => signed negative names.infinity
  | .finite negative 0 _ => signed negative ['0', '.', '0']
  | .finite negative m e => signed negative (layout (shortest m e))

end Double

end RemoteShell
