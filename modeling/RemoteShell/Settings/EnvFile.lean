import RemoteShell.Assoc

set_option autoImplicit false

namespace RemoteShell.EnvFile

def isInline (c : Char) : Bool := Text.isBlank c && c != '\n'

def unifyLines : Text → Text
  | [] => []
  | '\r' :: '\n' :: rest => '\n' :: unifyLines rest
  | c :: rest => (if c = '\r' then '\n' else c) :: unifyLines rest

/-- The body before the closing quote, and what follows. The character after a backslash closes
nothing. -/
def quotedBody (quote : Char) : Text → Option (Text × Text)
  | [] => none
  | [c] => if c = quote then some ([], []) else none
  | c :: d :: rest =>
    if c = quote then some ([], d :: rest)
    else if c = '\\' then (quotedBody quote rest).map fun (body, after) => (c :: d :: body, after)
    else (quotedBody quote (d :: rest)).map fun (body, after) => (c :: body, after)

def escapes : List (Char × Char) :=
  [('\\', '\\'), ('\'', '\''), ('"', '"'), ('a', '\x07'), ('b', '\x08'), ('f', '\x0c'),
    ('n', '\n'), ('r', '\r'), ('t', '\t'), ('v', '\x0b')]

/-- In single quotes only the backslash and the quote are escaped. -/
def escaped? (quote c : Char) : Option Char :=
  if quote = '\'' ∧ c ≠ '\\' ∧ c ≠ '\'' then none else escapes.lookup c

def unescape (quote : Char) : Text → Text
  | [] => []
  | [c] => [c]
  | c :: d :: rest =>
    if c = '\\' then
      match escaped? quote d with
      | some e => e :: unescape quote rest
      | none => c :: unescape quote (d :: rest)
    else c :: unescape quote (d :: rest)

/-- A text up to the blanks before a comment. -/
def cutComment : Text → Text
  | [] => []
  | c :: rest =>
    if Text.isBlank c && (rest.dropWhile Text.isBlank).head? = some '#' then []
    else c :: cutComment rest

/-- The value after an equals sign, and what follows it on the line and after. Blanks around it do
not count, but a comment needs one before it. -/
def value? (s : Text) : Option (Text × Text) :=
  match s.dropWhile isInline with
  | '\'' :: rest => (quotedBody '\'' rest).map fun (body, after) => (unescape '\'' body, after)
  | '"' :: rest => (quotedBody '"' rest).map fun (body, after) => (unescape '"' body, after)
  | _ =>
    some (Text.strip (cutComment (s.takeWhile (· ≠ '\n'))), s.dropWhile (· ≠ '\n'))

def key? (s : Text) : Option (Option Text × Text) :=
  match s with
  | '#' :: _ => some (none, s)
  | '\'' :: rest =>
    match rest.dropWhile (· ≠ '\'') with
    | _ :: after =>
      let key := rest.takeWhile (· ≠ '\'')
      if key.isEmpty then none else some (some key, after)
    | [] => none
  | _ =>
    let isKey := fun c => c != '=' && c != '#' && !Text.isBlank c
    let key := s.takeWhile isKey
    if key.isEmpty then none else some (some key, s.dropWhile isKey)

def skipExport (s : Text) : Text :=
  let word := "export".toList
  if Text.hasPrefix word s && ((s.drop word.length).head?.elim false isInline) then
    (s.drop word.length).dropWhile isInline
  else s

def lineEnd? (s : Text) : Option Text :=
  let s := s.dropWhile isInline
  let s := if s.head? = some '#' then s.dropWhile (· ≠ '\n') else s
  match s with
  | [] => some []
  | c :: rest => if c = '\n' then some rest else none

structure Binding where
  key : Option Text
  value : Option Text

def binding (s : Text) : Except Text (Binding × Text) :=
  match key? (skipExport s) with
  | none => .error (skipExport s)
  | some (key, rest) =>
    let rest := rest.dropWhile isInline
    match rest with
    | '=' :: more =>
      match value? more with
      | none => .error (more.dropWhile isInline)
      | some (value, rest) =>
        match lineEnd? rest with
        | some rest => .ok (⟨key, some value⟩, rest)
        | none => .error rest
    | _ =>
      match lineEnd? rest with
      | some rest => .ok (⟨key, none⟩, rest)
      | none => .error rest

/-- The lines of a file. One that cannot be read is passed over. -/
def bindings : Nat → Text → List Binding
  | 0, _ => []
  | fuel + 1, s =>
    let s := s.dropWhile Text.isBlank
    if s.isEmpty then []
    else
      match binding s with
      | .ok (b, rest) => b :: bindings fuel rest
      | .error rest => bindings fuel ((rest.dropWhile (· ≠ '\n')).drop 1)

/-- The variable after a dollar sign: its name, its default, and what follows. -/
def reference? : Text → Option (Text × Text × Text)
  | '\x7b' :: rest =>
    let isName := fun c => c != '\x7d' && c != ':'
    let name := rest.takeWhile isName
    match rest.dropWhile isName with
    | '\x7d' :: after => some (name, [], after)
    | ':' :: '-' :: more =>
      match more.dropWhile (· ≠ '\x7d') with
      | _ :: after => some (name, more.takeWhile (· ≠ '\x7d'), after)
      | [] => none
    | _ => none
  | _ => none

/-- A value with its variables filled in. A variable without a value is empty. -/
def fillIn (known : Assoc (Option Text)) : Nat → Text → Text
  | 0, s => s
  | _, [] => []
  | fuel + 1, c :: rest =>
    match if c = '$' then reference? rest else none with
    | some (name, default, after) =>
      ((Assoc.get? name known).getD (some default)).getD [] ++ fillIn known fuel after
    | none => c :: fillIn known fuel rest

/-- Earlier lines of the file come before the variables around it. -/
def resolve (around : Assoc Text) (bs : List Binding) : Assoc (Option Text) :=
  bs.foldl (fun found b =>
    match b.key with
    | none => found
    | some key =>
      let known := Assoc.putAll found (around.map fun v => (v.1, some v.2))
      Assoc.put key (b.value.map fun v => fillIn known v.length v) found) []

/-- The variables of a file, seen from the variables around it. Some are named without a value. A
byte order mark at the start does not count. -/
def parse (around : Assoc Text) (content : Text) : Assoc (Option Text) :=
  let content :=
    match content with
    | '\uFEFF' :: rest => rest
    | content => content
  let content := unifyLines content
  resolve around (bindings content.length content)

end RemoteShell.EnvFile
