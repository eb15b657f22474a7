import RemoteShell.Markup.Literal.Problem
import RemoteShell.Markup.Literal.Quote
import RemoteShell.Text.Word

set_option autoImplicit false

namespace RemoteShell.Literal

inductive Kind where
  | name
  | mark
  | number (isImaginary : Bool)
  | quote
  | lineEnd
  | indent
  | dedent
  | stop
  deriving DecidableEq, Repr

structure Token where
  kind : Kind
  text : Text
  depth : Nat
  line : Nat
  deriving DecidableEq, Repr

inductive Ending where
  | complete
  /-- A bracket is open that a line has. The last token may touch the end of the text; a quoted text
  never does. -/
  | unclosed (opening : Char) (line : Nat) (touches : Bool)
  | broken (problem : Problem)
  /-- No token can be told here, which is a problem only for a reader that comes so far. A bracket
  may be open. -/
  | stuck (problem : Problem) (opened : Option (Char × Nat))
  deriving DecidableEq, Repr

structure Scan where
  tokens : List Token
  ending : Ending
  deriving DecidableEq, Repr

def reserved : List String :=
  ["False", "None", "True", "and", "as", "assert", "async", "await", "break", "class", "continue",
    "def", "del", "elif", "else", "except", "finally", "for", "from", "global", "if", "import",
    "in", "is", "lambda", "nonlocal", "not", "or", "pass", "raise", "return", "try", "while",
    "with", "yield"]

def longMarks : List String :=
  ["**=", "//=", "<<=", ">>=", "...", "==", "!=", "<=", ">=", "<>", "<<", ">>", "**", "//", "->",
    ":=", "+=", "-=", "*=", "/=", "%=", "@=", "&=", "|=", "^="]

/-- Any character beyond ASCII may be part of a name until the name is checked. -/
def mayContinueName (c : Char) : Bool :=
  c = '_' || Text.isLetter c || Text.isDigit c || 0x80 ≤ c.toNat

/-- The words that may follow a numeral without a blank. -/
def followers : List String := ["and", "else", "for", "or", "not"]

/-- A numeral ends where no letter, digit or low line follows, or one of a few words. -/
def endNumeral (base : Base) (s : Text) : Except Problem Text :=
  let word := s.takeWhile mayContinueName
  let second := (s.drop 1).head?
  if followers.any (fun w => w.toList == word) then .ok s
  else if s.head? = some 'i' ∧ (second = some 'f' ∨ second = some 'n' ∨ second = some 's') then
    .ok s
  else
    match s with
    | c :: _ => if c.toNat < 0x80 && mayContinueName c then .error (.badNumeral base) else .ok s
    | [] => .ok s

def noDigit (base : Base) : Option Char → Problem
  | some c =>
    if Text.isDigit c ∧ (base = .octal ∨ base = .binary) then .badDigit c base
    else .badNumeral base
  | none => .badNumeral base

def digits (base : Base) (isDigit : Char → Bool) : Text → Except Problem Text
  | '_' :: c :: rest =>
    if isDigit c then digits base isDigit rest else .error (noDigit base (some c))
  | ['_'] => .error (noDigit base none)
  | c :: rest => if isDigit c then digits base isDigit rest else .ok (c :: rest)
  | [] => .ok []

def based (base : Base) (isDigit : Char → Bool) (s : Text) : Except Problem Text := do
  let first := if s.head? = some '_' then s.drop 1 else s
  match first with
  | c :: rest =>
    if isDigit c then
      let rest ← digits base isDigit rest
      match rest with
      | d :: _ =>
        if Text.isDigit d then .error (noDigit base (some d)) else endNumeral base rest
      | [] => .ok []
    else .error (noDigit base (some c))
  | [] => .error (noDigit base none)

def isSame (c letter : Char) : Bool := c.toLower = letter

def suffix (s : Text) : Except Problem (Bool × Text) :=
  match s with
  | c :: rest =>
    if isSame c 'j' then (endNumeral .imaginary rest).map ((true, ·))
    else (endNumeral .decimal s).map ((false, ·))
  | [] => .ok (false, [])

def exponent (s : Text) : Except Problem (Bool × Text) :=
  match s with
  | c :: rest =>
    if isSame c 'e' then
      let hasSign := rest.head? = some '+' || rest.head? = some '-'
      let first := if hasSign then rest.drop 1 else rest
      match first with
      | d :: _ =>
        if Text.isDigit d then do suffix (← digits .decimal Text.isDigit first)
        else if hasSign then .error (.badNumeral .decimal)
        else (endNumeral .decimal s).map ((false, ·))
      | [] => .error (.badNumeral .decimal)
    else suffix s
  | [] => .ok (false, [])

def fraction (s : Text) : Except Problem (Bool × Text) :=
  match s with
  | c :: _ => if Text.isDigit c then do exponent (← digits .decimal Text.isDigit s) else exponent s
  | [] => .ok (false, [])

def zeros : Text → Except Problem Text
  | '_' :: c :: rest =>
    if c = '0' then zeros rest
    else if Text.isDigit c then .ok (c :: rest)
    else .error (.badNumeral .decimal)
  | ['_'] => .error (.badNumeral .decimal)
  | '0' :: rest => zeros rest
  | s => .ok s

/-- What follows the whole part of a decimal numeral. Only zero itself may start with a zero. -/
def afterWhole (isPadded : Bool) (s : Text) : Except Problem (Bool × Text) :=
  match s with
  | '.' :: rest => fraction rest
  | c :: _ =>
    if isSame c 'e' ∨ isSame c 'j' then exponent s
    else if isPadded then .error .leadingZero
    else suffix s
  | [] => if isPadded then .error .leadingZero else .ok (false, [])

def numeral (s : Text) : Except Problem (Bool × Text) :=
  match s with
  | '0' :: c :: rest =>
    if isSame c 'x' then
      (based .hexadecimal (fun d => (Text.hexValue? d).isSome) rest).map ((false, ·))
    else if isSame c 'o' then (based .octal (fun d => '0' ≤ d && d ≤ '7') rest).map ((false, ·))
    else if isSame c 'b' then
      (based .binary (fun d => d = '0' || d = '1') rest).map ((false, ·))
    else do
      let rest ← zeros (c :: rest)
      if (rest.head?.map Text.isDigit).getD false then
        afterWhole true (← digits .decimal Text.isDigit rest)
      else afterWhole false rest
  | _ => do afterWhole false (← digits .decimal Text.isDigit s)

/-- The text behind the mark that ends a text on one line. A backslash before the end of the line
takes it into the text. -/
def closeLine (mark : Char) (line : Nat) : Text → Except Problem Text
  | [] => .error (.openText false line)
  | '\\' :: c :: rest => closeLine mark (if c = '\n' then line + 1 else line) rest
  | c :: rest =>
    if c = mark then .ok rest
    else if c = '\n' then .error (.openText false line)
    else closeLine mark line rest

def closeBlock (mark : Char) (line : Nat) : Text → Except Problem Text
  | [] => .error (.openText true line)
  | '\\' :: c :: rest => closeBlock mark (if c = '\n' then line + 1 else line) rest
  | c :: rest =>
    if c = mark ∧ rest.take 2 = [mark, mark] then .ok (rest.drop 2)
    else closeBlock mark (if c = '\n' then line + 1 else line) rest

def quotedEnd (line : Nat) : Text → Except Problem Text
  | mark :: rest =>
    if rest.take 2 = [mark, mark] then closeBlock mark line (rest.drop 2)
    else closeLine mark line rest
  | [] => .ok []

def strayInName? : Text → Option Char
  | c :: rest => if Text.isNameStart c then rest.find? fun d => !Text.isNameChar d else some c
  | [] => none

def lexeme (line : Nat) (s : Text) : Except Problem (Kind × Text) :=
  match s with
  | [] => .ok (.stop, [])
  | c :: rest =>
    let word := s.takeWhile mayContinueName
    let behind := s.dropWhile mayContinueName
    if Text.isDigit c ∨ (c = '.' ∧ (rest.head?.map Text.isDigit).getD false) then
      ((if c = '.' then fraction rest else numeral s)).map fun r => (.number r.1, r.2)
    else if isQuoteMark c then (quotedEnd line s).map ((.quote, ·))
    else if mayContinueName c then
      if (behind.head?.map isQuoteMark).getD false ∧
          Quote.letterings.any fun l => l.toList == Text.lowerAscii word then
        (quotedEnd line behind).map ((.quote, ·))
      else
        match strayInName? word with
        | some stray => .error (.badCharacter stray)
        | none => .ok (if reserved.any (fun w => w.toList == word) then .mark else .name, behind)
    else if !Text.isPrintable c then .error (.badCharacter c)
    else
      match longMarks.find? fun m => Text.hasPrefix m.toList s with
      | some mark => .ok (.mark, s.drop mark.length)
      | none => .ok (.mark, rest)

def closing? (c : Char) : Option Char :=
  if c = '(' then some ')'
  else if c = '[' then some ']'
  else if c = '\x7b' then some '\x7d'
  else none

def isClosing (c : Char) : Bool := c = ')' || c = ']' || c = '\x7d'

/-- Brackets may be nested so deep. -/
def deepest : Nat := 200

def openedBy (line : Nat) (opened : List (Char × Nat)) (token : Text) :
    Except Problem (List (Char × Nat)) :=
  match token with
  | [c] =>
    if (closing? c).isSome then
      if opened.length < deepest then .ok ((c, line) :: opened) else .error .tooDeep
    else if isClosing c then
      match opened with
      | [] => .error (.unmatched c)
      | (opening, on) :: outer =>
        if closing? opening = some c then .ok outer
        else .error (.mismatched c opening (if on = line then none else some on))
    else .ok opened
  | _ => .ok opened

def isGap (c : Char) : Bool := c = ' ' || c = '\t' || c = '\x0c'

def indentation (gap : Text) : Nat :=
  gap.foldl (fun column c =>
    if c = '\t' then (column / 8 + 1) * 8 else if c = ' ' then column + 1 else 0) 0

structure Place where
  line : Nat
  opened : List (Char × Nat)
  indents : List Nat
  /-- No token of the line is read yet, and no bracket is open. -/
  isFresh : Bool
  isBlank : Bool
  /-- A token other than a quoted text is right before. -/
  touches : Bool

def indentTokens (line column : Nat) (indents : List Nat) :
    Except Problem (List Token × List Nat) :=
  if indents.headD 0 < column then .ok ([⟨.indent, [], 0, line⟩], column :: indents)
  else
    let outer := indents.dropWhile (column < ·)
    if outer.headD 0 = column then
      .ok (List.replicate (indents.length - outer.length) ⟨.dedent, [], 0, line⟩, outer)
    else .error .unindented

def Scan.after (tokens : List Token) (s : Scan) : Scan := { s with tokens := tokens ++ s.tokens }

def Place.nextLine (p : Place) : Place :=
  { p with line := p.line + 1, isFresh := p.opened.isEmpty, isBlank := true, touches := false }

def scanFrom : Nat → Place → Text → Scan
  | 0, _, _ => ⟨[], .complete⟩
  | fuel + 1, p, s =>
    match s.dropWhile isGap with
    | [] =>
      match p.opened with
      | [] => ⟨[⟨.stop, [], 0, p.line⟩], .complete⟩
      | (opening, line) :: _ => ⟨[], .unclosed opening line (p.touches && s.isEmpty)⟩
    | '\n' :: rest =>
      let token := ⟨.lineEnd, [], 0, p.line⟩
      let more := scanFrom fuel p.nextLine rest
      if p.isBlank || !p.opened.isEmpty then more else more.after [token]
    | '#' :: rest => scanFrom fuel { p with touches := false } (rest.dropWhile (· ≠ '\n'))
    | '\\' :: rest =>
      match rest with
      | '\n' :: rest => scanFrom fuel { p with line := p.line + 1 } rest
      | _ => ⟨[], .stuck .badContinuation p.opened.head?⟩
    | s' =>
      let entry : Except Problem (List Token × List Nat) :=
        if p.isFresh then indentTokens p.line (indentation (s.takeWhile isGap)) p.indents
        else .ok ([], p.indents)
      match entry with
      | .error problem => ⟨[], .stuck problem none⟩
      | .ok (before, indents) =>
        match lexeme p.line s' with
        | .error problem => ⟨before, .broken problem⟩
        | .ok (kind, rest) =>
          let text := s'.take (s'.length - rest.length)
          match openedBy p.line p.opened text with
          | .error problem => ⟨before, .broken problem⟩
          | .ok opened =>
            let token := ⟨kind, text, opened.length, p.line⟩
            let touches := kind ≠ .quote && text ≠ "...".toList
            let next := ⟨p.line + text.count '\n', opened, indents, false, false, touches⟩
            (scanFrom fuel next rest).after (before ++ [token])

def withLineFeeds : Text → Text
  | '\r' :: '\n' :: rest => '\n' :: withLineFeeds rest
  | '\r' :: rest => '\n' :: withLineFeeds rest
  | c :: rest => c :: withLineFeeds rest
  | [] => []

def scan (s : Text) : Scan :=
  if s.contains '\x00' then ⟨[], .broken .zeroCharacter⟩
  else scanFrom (s.length + 1) ⟨1, [], [0], true, true, false⟩ (withLineFeeds s)

end RemoteShell.Literal
