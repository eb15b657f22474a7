import RemoteShell.Markup.Literal.Problem

set_option autoImplicit false

namespace RemoteShell.Literal

structure Quote where
  isRaw : Bool
  isOctets : Bool
  isFormatted : Bool
  body : Text
  deriving DecidableEq, Repr

def Quote.letterings : List String := ["", "b", "u", "r", "f", "br", "rb", "fr", "rf"]

def isQuoteMark (c : Char) : Bool := c = '\'' || c = '"'

def Quote.ofText (written : Text) : Quote :=
  let letters := Text.lowerAscii (written.takeWhile fun c => !isQuoteMark c)
  let quoted := written.drop letters.length
  let marks := if 6 ≤ quoted.length ∧ (quoted.take 3).all (some · = quoted.head?) then 3 else 1
  ⟨letters.contains 'r', letters.contains 'b', letters.contains 'f',
    (quoted.drop marks).take (quoted.length - 2 * marks)⟩

/-- How far a character moves the place that is told of a fault. One beyond ASCII counts as the
escape of its code point. -/
def advance (c : Char) : Nat := if c.toNat < 0x80 then 1 else 10

def advanceAll (s : Text) : Nat := s.foldl (fun n c => n + advance c) 0

def hexEscape? (c : Char) : Option (Escape × Nat) :=
  if c = 'x' then some (.short, 2)
  else if c = 'u' then some (.middle, 4)
  else if c = 'U' then some (.long, 8)
  else none

def hexValue (digits : Text) : Nat :=
  digits.foldl (fun n c => 16 * n + (Text.hexValue? c).getD 0) 0

/-- Whether characters may have such a name: none has one of a single letter. -/
def isCharacterName (name : Text) : Bool :=
  2 ≤ name.length && name.all fun c => Text.isLetter c || Text.isDigit c || c = ' ' || c = '-'

def namedProblem? (place : Nat) : Text → Option Problem
  | '\x7b' :: rest =>
    let name := rest.takeWhile (· ≠ '\x7d')
    let stop := place + 3 + advanceAll name
    if name.length = rest.length then some (.cutEscape .named place stop)
    else if name.isEmpty then some (.cutEscape .named place stop)
    else if isCharacterName name then none
    else some (.unknownName place (stop + 1))
  | _ => some (.cutEscape .named place (place + 2))

def escapeProblem? (place : Nat) (letter : Char) (rest : Text) : Option Problem :=
  match hexEscape? letter with
  | some (escape, count) =>
    let digits := (rest.take count).takeWhile fun c => (Text.hexValue? c).isSome
    if digits.length < count then some (.cutEscape escape place (place + 2 + digits.length))
    else if 0x10FFFF < hexValue digits then some (.noCharacter place (place + 2 + count))
    else none
  | none => if letter = 'N' then namedProblem? place rest else none

def textProblem? (place : Nat) : Text → Option Problem
  | [] => none
  | '\\' :: c :: rest =>
    if 0x80 ≤ c.toNat then textProblem? (place + 6 + advance c) rest
    else
      match escapeProblem? place c rest with
      | some p => some p
      | none => textProblem? (place + 2) rest
  | c :: rest => textProblem? (place + advance c) rest

def octetsProblem? (place : Nat) : Text → Option Problem
  | [] => none
  | '\\' :: c :: rest =>
    let digits := (rest.take 2).takeWhile fun c => (Text.hexValue? c).isSome
    if c = 'x' ∧ digits.length < 2 then some (.badOctet place)
    else octetsProblem? (place + 2) rest
  | _ :: rest => octetsProblem? (place + 1) rest

def Quote.problem? (q : Quote) : Option Problem :=
  if q.isOctets then
    if q.body.any fun c => 0x80 ≤ c.toNat then some .octetsBeyondAscii
    else if q.isRaw then none
    else octetsProblem? 0 q.body
  else if q.isRaw then none
  else textProblem? 0 q.body

/-- What is wrong with quoted texts one after another: octets go with octets only. -/
def Quote.rowProblem? (isOctets : Bool) : List Quote → Option Problem
  | [] => none
  | q :: rest =>
    match q.problem? with
    | some p => some p
    | none => if q.isOctets = isOctets then rowProblem? isOctets rest else some .mixedTexts

end RemoteShell.Literal
