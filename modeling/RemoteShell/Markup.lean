import RemoteShell.Markup.Handler
import RemoteShell.Markup.Style

set_option autoImplicit false

namespace RemoteShell.Markup

inductive Segment where
  | char (c : Char)
  /-- A bracket that reads as a tag, with the number of backslashes right before it. -/
  | bracket (slashes : Nat) (body : Text)
  deriving DecidableEq, Repr

def isTagStart (c : Char) : Bool :=
  ('a' ≤ c && c ≤ 'z') || c = '#' || c = '/' || c = '@'

def isInside (c : Char) : Bool := c != '[' && c != ']'

/-- The body of the tag that an opening bracket before this text would start: up to the first
closing bracket, with no other opening bracket before that. -/
def body? : Text → Option Text
  | [] => none
  | c :: rest =>
    if isTagStart c && (rest.dropWhile isInside).head? = some ']' then
      some (c :: rest.takeWhile isInside)
    else none

def segments : Text → List Segment
  | [] => []
  | c :: rest =>
    if c = '[' then
      match body? rest with
      | some body => .bracket 0 body :: (segments rest).drop (body.length + 1)
      | none => .char c :: segments rest
    else if c = '\\' then
      match segments rest with
      | .bracket n body :: more => .bracket (n + 1) body :: more
      | more => .char c :: more
    else .char c :: segments rest

def Segment.written : Segment → Text
  | .char c => [c]
  | .bracket n body => List.replicate n '\\' ++ '[' :: body ++ [']']

/-- Twice the backslashes and one more make a tag literal and keep the backslashes before it. -/
def Segment.escaped : Segment → Text
  | .char c => [c]
  | .bracket n body => Segment.written (.bracket (2 * n + 1) body)

/-- A single backslash at the end is doubled. -/
def closeSlash (s : Text) : Text :=
  match s.reverse with
  | '\\' :: '\\' :: _ => s
  | '\\' :: _ => s ++ ['\\']
  | _ => s

def escape (s : Text) : Text := closeSlash ((segments s).flatMap Segment.escaped)

inductive Fault where
  /-- A closing tag whose style no open tag has. -/
  | unopened (body : Text) (index : Nat)
  | nothingToClose (index : Nat)
  | style (fault : Style.Fault)
  | handler (fault : Handler.Fault)
  deriving DecidableEq, Repr

def Fault.message : Fault → Text
  | .unopened body index =>
    "closing tag '[".toList ++ body ++ "]' at position ".toList ++ Text.ofNat index ++
      " doesn't match any open tag".toList
  | .nothingToClose index =>
    "closing tag '[/]' at position ".toList ++ Text.ofNat index ++ " has nothing to close".toList
  | .style fault => fault.message
  | .handler fault => fault.message

structure Span where
  style : Text
  start : Nat
  stop : Nat
  deriving DecidableEq, Repr

/-- A tag that is open from a character on, by its canonical name. Behind an equals sign it may say
more. -/
structure Opened where
  name : Text
  argument : Option Text
  start : Nat
  deriving DecidableEq, Repr

def Opened.span (t : Opened) (stop : Nat) : Span :=
  ⟨t.name ++ t.argument.elim [] (' ' :: ·), t.start, stop⟩

/-- An action tag has a handler and covers nothing; any other has a style. -/
def Opened.close (t : Opened) (stop : Nat) : Except Fault (List Span) :=
  match t.name with
  | '@' :: _ => ((Handler.check (t.argument.getD [])).map fun _ => []).mapError .handler
  | _ => .ok [t.span stop]

/-- The open tags after one more tag, and the spans that it ends. A closing tag without a name
closes the latest open one. -/
def readTag (index start : Nat) (opened : List Opened) (body : Text) :
    Except Fault (List Opened × List Span) :=
  match Text.cutOnce '=' body with
  | ('/' :: name, _) =>
    let name := Text.strip name
    if name.isEmpty then
      match opened with
      | [] => .error (.nothingToClose index)
      | latest :: outer => (latest.close start).map ((outer, ·))
    else
      match Style.canonical name with
      | .error fault => .error (.style fault)
      | .ok style =>
        match opened.find? fun t => t.name == style with
        | none => .error (.unopened body index)
        | some t => (t.close start).map ((opened.eraseP fun t => t.name == style, ·))
  | (name, argument) =>
    match Style.canonical name with
    | .error fault => .error (.style fault)
    | .ok style => .ok (⟨style, argument, start⟩ :: opened, [])

structure Styled where
  text : Text
  spans : List Span
  deriving DecidableEq, Repr

def Styled.after (text : Text) (spans : List Span) (s : Styled) : Styled :=
  ⟨text ++ s.text, spans ++ s.spans⟩

def readFrom (index start : Nat) (opened : List Opened) : List Segment → Except Fault Styled
  | [] => .ok ⟨[], opened.map fun t => t.span start⟩
  | .char '\\' :: .char '[' :: rest =>
    (readFrom (index + 2) (start + 1) opened rest).map (.after ['['] [])
  | .char c :: rest => (readFrom (index + 1) (start + 1) opened rest).map (.after [c] [])
  | .bracket n body :: rest =>
    let slashes := List.replicate (n / 2) '\\'
    let next := index + n + body.length + 2
    let start := start + n / 2
    if n % 2 = 1 then
      (readFrom next (start + body.length + 2) opened rest).map
        (.after (slashes ++ '[' :: body ++ [']']) [])
    else
      match readTag (index + n) start opened body with
      | .ok (opened, spans) => (readFrom next start opened rest).map (.after slashes spans)
      | .error fault => .error fault

/-- Outside tags a backslash before an opening bracket is dropped. -/
def read (s : Text) : Except Fault Styled := readFrom 0 0 [] (segments s)

def plain (s : Text) : Except Fault Text := (read s).map Styled.text

def tagged (style inner : Text) : Text :=
  '[' :: style ++ ']' :: inner ++ '[' :: '/' :: style ++ [']']

end RemoteShell.Markup
