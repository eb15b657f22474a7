import RemoteShell.Number.Limit
import RemoteShell.Value

set_option autoImplicit false

namespace RemoteShell.Json

inductive Problem where
  | missingValue
  | missingName
  | missingColon
  | missingComma
  | trailingText
  | openString
  | badEscape
  | badUnit
  | controlCharacter
  | byteOrderMark
  deriving DecidableEq, Repr

def Problem.message : Problem → Text
  | .missingValue => "Expecting value".toList
  | .missingName => "Expecting property name enclosed in double quotes".toList
  | .missingColon => "Expecting ':' delimiter".toList
  | .missingComma => "Expecting ',' delimiter".toList
  | .trailingText => "Extra data".toList
  | .openString => "Unterminated string starting at".toList
  | .badEscape => "Invalid \\escape".toList
  | .badUnit => "Invalid \\uXXXX escape".toList
  | .controlCharacter => "Invalid control character at".toList
  | .byteOrderMark => "Unexpected UTF-8 BOM (decode using utf-8-sig)".toList

/-- Why reading stopped. An integer literal may have at most `Numeral.mostDigits` digits. -/
inductive Stop where
  | problem (what : Problem) (rest : Text)
  | longInteger (digits : Nat)

abbrev Reading (α : Type) := Except Stop (α × Text)

def isSpace (c : Char) : Bool := c = ' ' || c = '\t' || c = '\n' || c = '\r'

def skipSpace (s : Text) : Text := s.dropWhile isSpace

def plainEscape? (c : Char) : Option Char :=
  if c = '"' ∨ c = '\\' ∨ c = '/' then some c
  else if c = 'b' then some '\x08'
  else if c = 'f' then some '\x0c'
  else if c = 'n' then some '\n'
  else if c = 'r' then some '\r'
  else if c = 't' then some '\t'
  else none

def unit? (a b c d : Char) : Option Nat := do
  let a ← Text.hexValue? a
  let b ← Text.hexValue? b
  let c ← Text.hexValue? c
  let d ← Text.hexValue? d
  return ((a * 16 + b) * 16 + c) * 16 + d

def isHighUnit (n : Nat) : Bool := 0xD800 ≤ n && n < 0xDC00

def isLowUnit (n : Nat) : Bool := 0xDC00 ≤ n && n < 0xE000

/-- The code point of one unit, which may be half of a pair on its own. -/
def ofUnit (n : Nat) : Point :=
  if h : 0xD800 ≤ n ∧ n < 0xE000 then .half ⟨n - 0xD800, by omega⟩ else .char (Char.ofNat n)

def ofPair (high low : Nat) : Char :=
  Char.ofNat (0x10000 + (high - 0xD800) * 0x400 + (low - 0xDC00))

/-- What has been read of a string, in reverse, and the first half of a pair if it came last. -/
structure Partial where
  done : Points
  high : Option Nat := none

namespace Partial

def flush (p : Partial) : Points :=
  match p.high with
  | some n => ofUnit n :: p.done
  | none => p.done

def push (p : Partial) (c : Char) : Partial := ⟨.char c :: p.flush, none⟩

def pushSingle (p : Partial) (n : Nat) : Partial :=
  if isHighUnit n then ⟨p.flush, some n⟩ else ⟨ofUnit n :: p.flush, none⟩

def pushUnit (p : Partial) (n : Nat) : Partial :=
  match p.high with
  | some high => if isLowUnit n then ⟨.char (ofPair high n) :: p.done, none⟩ else p.pushSingle n
  | none => p.pushSingle n

end Partial

/-- The inside of a string up to its closing quote; `start` is the text from the opening quote. -/
def readString (start : Text) (p : Partial) : Text → Reading Points
  | [] => .error (.problem .openString start)
  | [c] =>
    if c = '"' then .ok (p.flush.reverse, [])
    else if c = '\\' then .error (.problem .openString start)
    else if c.toNat < 0x20 then .error (.problem .controlCharacter [c])
    else .error (.problem .openString start)
  | '\\' :: 'u' :: a :: b :: c :: d :: rest =>
    match unit? a b c d with
    | some n =>
      if rest.isEmpty then .error (.problem .badUnit ('u' :: a :: b :: c :: d :: rest))
      else readString start (p.pushUnit n) rest
    | none => .error (.problem .badUnit ('u' :: a :: b :: c :: d :: rest))
  | '\\' :: c :: rest =>
    if c = 'u' then .error (.problem .badUnit (c :: rest))
    else
      match plainEscape? c with
      | some e => readString start (p.push e) rest
      | none => .error (.problem .badEscape ('\\' :: c :: rest))
  | c :: rest =>
    if c = '"' then .ok (p.flush.reverse, rest)
    else if c.toNat < 0x20 then .error (.problem .controlCharacter (c :: rest))
    else readString start (p.push c) rest

def readWhole (s : Text) : Option (Text × Text) :=
  match s with
  | [] => none
  | c :: rest =>
    if c = '0' then some (['0'], rest)
    else if Text.isDigit c then some (s.takeWhile Text.isDigit, s.dropWhile Text.isDigit)
    else none

def readFraction (s : Text) : Option Text × Text :=
  match s with
  | '.' :: rest =>
    let digits := rest.takeWhile Text.isDigit
    if digits.isEmpty then (none, s) else (some digits, rest.dropWhile Text.isDigit)
  | _ => (none, s)

def readExponent (s : Text) : Option Int × Text :=
  match s with
  | [] => (none, s)
  | e :: rest =>
    if e = 'e' ∨ e = 'E' then
      let (negative, body) :=
        match rest with
        | '-' :: more => (true, more)
        | '+' :: more => (false, more)
        | _ => (false, rest)
      let digits := body.takeWhile Text.isDigit
      if digits.isEmpty then (none, s)
      else
        let n : Int := Text.readDigits digits
        (some (if negative then -n else n), body.dropWhile Text.isDigit)
    else (none, s)

def takeMinus : Text → Bool × Text
  | '-' :: rest => (true, rest)
  | s => (false, s)

/-- A number is whole unless it has a fraction or an exponent. -/
def readNumber (s : Text) : Reading Value :=
  let (negative, body) := takeMinus s
  match readWhole body with
  | none => .error (.problem .missingValue s)
  | some (whole, rest) =>
    let (fraction, rest) := readFraction rest
    let (power, rest) := readExponent rest
    if fraction.isNone && power.isNone then
      if Numeral.mostDigits < whole.length then .error (.longInteger whole.length)
      else
        let n : Int := Text.readDigits whole
        .ok (.int (if negative then -n else n), rest)
    else
      let places := fraction.getD []
      .ok (.real (Double.ofDecimal negative (whole ++ places) (power.getD 0 - places.length)), rest)

/-- The words that stand for a value. The last three are no part of strict JSON. -/
def words (constants : Bool) : List (Text × Value) :=
  [("null".toList, .null), ("true".toList, .bool true), ("false".toList, .bool false)] ++
    if constants then
      [("NaN".toList, .real .nan), ("Infinity".toList, .real (.infinite false)),
        ("-Infinity".toList, .real (.infinite true))]
    else []

def readWord? (constants : Bool) (s : Text) : Option (Value × Text) :=
  (words constants).findSome? fun w =>
    if Text.hasPrefix w.1 s then some (w.2, s.drop w.1.length) else none

mutual

/-- A value at the head of a text. The first argument bounds the depth of the calls, and twice the
length of the text is always enough: values may be nested to any depth here. -/
def readValue (constants : Bool) : Nat → Text → Reading Value
  | 0, s => .error (.problem .missingValue s)
  | fuel + 1, s =>
    match s with
    | '"' :: rest => (readString s ⟨[], none⟩ rest).map fun r => (.text r.1, r.2)
    | '[' :: rest =>
      match skipSpace rest with
      | ']' :: after => .ok (.list [], after)
      | inner => (readItems constants fuel inner).map fun r => (.list r.1, r.2)
    | '\x7b' :: rest =>
      match skipSpace rest with
      | '\x7d' :: after => .ok (.map [], after)
      | inner => (readFields constants fuel inner).map fun r => (.map (Assoc.ofPairs r.1), r.2)
    | _ =>
      match readWord? constants s with
      | some r => .ok r
      | none => readNumber s

def readItems (constants : Bool) : Nat → Text → Reading (List Value)
  | 0, s => .error (.problem .missingValue s)
  | fuel + 1, s =>
    (readValue constants fuel s).bind fun (v, rest) =>
      match skipSpace rest with
      | ']' :: after => .ok ([v], after)
      | ',' :: after =>
        (readItems constants fuel (skipSpace after)).map fun (vs, last) => (v :: vs, last)
      | here => .error (.problem .missingComma here)

def readFields (constants : Bool) : Nat → Text → Reading (List (Points × Value))
  | 0, s => .error (.problem .missingName s)
  | fuel + 1, s =>
    match s with
    | '"' :: body =>
      (readString s ⟨[], none⟩ body).bind fun (key, rest) =>
        match skipSpace rest with
        | ':' :: rest =>
          (readValue constants fuel (skipSpace rest)).bind fun (v, rest) =>
            match skipSpace rest with
            | '\x7d' :: after => .ok ([(key, v)], after)
            | ',' :: after =>
              (readFields constants fuel (skipSpace after)).map fun (fields, last) =>
                ((key, v) :: fields, last)
            | here => .error (.problem .missingComma here)
        | here => .error (.problem .missingColon here)
    | _ => .error (.problem .missingName s)

end

def document (constants : Bool) (s : Text) : Except Stop Value := do
  let (v, rest) ← readValue constants (2 * s.length + 2) (skipSpace s)
  match skipSpace rest with
  | [] => .ok v
  | here => .error (.problem .trailingText here)

end RemoteShell.Json
