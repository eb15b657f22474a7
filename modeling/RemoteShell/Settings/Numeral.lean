import RemoteShell.Number.Numeral

set_option autoImplicit false

namespace RemoteShell.Settings.Numeral

open RemoteShell.Numeral

def hasTwin : Text → Bool
  | '_' :: '_' :: _ => true
  | _ :: rest => hasTwin rest
  | [] => false

/-- A text without its underscores, if none is at an end or next to another. -/
def loosened? (s : Text) : Option Text :=
  if s.head? = some '_' ∨ s.getLast? = some '_' ∨ hasTwin s then none
  else some (s.filter (· ≠ '_'))

/-- Spaces around the numeral do not count, but for one with underscores. -/
def number? (s : Text) : Option Double :=
  match decimal? (Text.trim s) with
  | some x => some x
  | none => (loosened? s).bind decimal?

/-- A plus sign is dropped, but not before a minus sign. -/
def unsigned? : Text → Option Text
  | '+' :: '-' :: _ => none
  | '+' :: rest => some rest
  | s => some s

/-- What is left after a zero once zeros and underscores are dropped. The last of them stays before
a point and at the end, and a minus sign may follow them. -/
def afterZeros? (last : Char) : Text → Option Text
  | [] => some [last]
  | c :: rest =>
    if c = '0' ∨ c = '_' then afterZeros? c rest
    else if c = '.' then some (last :: c :: rest)
    else if Text.isDigit c ∨ c = '-' then some (c :: rest)
    else none

def withoutZeros? : Text → Option Text
  | [] => none
  | c :: rest =>
    if c = '0' then afterZeros? c rest
    else if Text.isDigit c ∨ c = '-' then some (c :: rest)
    else none

/-- The part before the first point, if only zeros follow it. -/
def withoutFraction (s : Text) : Text :=
  match Text.cutOnce '.' s with
  | (before, some zeros) => if !zeros.isEmpty && zeros.all (· = '0') then before else s
  | (_, none) => s

inductive Fault where
  | form
  | size
  deriving DecidableEq, Repr

/-- An optional minus sign and digits, which start with zero only if it is the whole number. -/
def bare (s : Text) : Except Fault Int :=
  let negative := s.head? = some '-'
  let digits := if negative then s.drop 1 else s
  let run := digits.takeWhile Text.isDigit
  if run.isEmpty || (run.head? = some '0' && 1 < run.length) then .error .form
  else if mostDigits < (s.length - digits.length) + run.length then .error .size
  else if run.length < digits.length then .error .form
  else .ok (signed negative run)

def integer (s : Text) : Except Fault Int :=
  match (unsigned? (Text.trim s)).bind withoutZeros? with
  | none => .error .form
  | some s =>
    let s := withoutFraction s
    bare ((loosened? s).getD s)

end RemoteShell.Settings.Numeral
