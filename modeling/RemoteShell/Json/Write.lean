import RemoteShell.Value

set_option autoImplicit false

namespace RemoteShell.Json

def unitEscape (unit : Nat) : Text := '\\' :: 'u' :: Text.hexDigits 4 unit

/-- A character inside a JSON string. Beyond the sixteen-bit plane it takes a pair of units. -/
def writeChar (c : Char) : Text :=
  if c = '"' ∨ c = '\\' then ['\\', c]
  else if c = '\n' then ['\\', 'n']
  else if c = '\r' then ['\\', 'r']
  else if c = '\t' then ['\\', 't']
  else if c = '\x08' then ['\\', 'b']
  else if c = '\x0c' then ['\\', 'f']
  else if 0x20 ≤ c.toNat ∧ c.toNat < 0x7F then [c]
  else if c.toNat < 0x10000 then unitEscape c.toNat
  else
    unitEscape (0xD800 + (c.toNat - 0x10000) / 0x400) ++
      unitEscape (0xDC00 + (c.toNat - 0x10000) % 0x400)

def writePoint : Point → Text
  | .char c => writeChar c
  | .half n => unitEscape (Point.unit n)

def writeText (s : Points) : Text := '"' :: s.flatMap writePoint ++ ['"']

mutual

/-- The text without blanks between its parts, for values nested to any depth. -/
def write : Value → Text
  | .null => "null".toList
  | .bool true => "true".toList
  | .bool false => "false".toList
  | .int n => Text.ofInt n
  | .real x => x.write Double.jsonNames
  | .text s => writeText s
  | .list items => '[' :: writeItems items ++ [']']
  | .map fields => '\x7b' :: writeFields fields ++ ['\x7d']

def writeItems : List Value → Text
  | [] => []
  | [v] => write v
  | v :: rest => write v ++ ',' :: writeItems rest

def writeFields : List (Points × Value) → Text
  | [] => []
  | [(key, v)] => writeText key ++ ':' :: write v
  | (key, v) :: rest => writeText key ++ ':' :: write v ++ ',' :: writeFields rest

end

def newLine (depth : Nat) : Text := '\n' :: List.replicate (2 * depth) ' '

mutual

/-- One item to a line, two blanks deeper than what holds it; an empty list or map stays closed. -/
def pretty (depth : Nat) : Value → Text
  | .list [] => "[]".toList
  | .list items => '[' :: prettyItems (depth + 1) items ++ newLine depth ++ [']']
  | .map [] => ['\x7b', '\x7d']
  | .map fields => '\x7b' :: prettyFields (depth + 1) fields ++ newLine depth ++ ['\x7d']
  | v => write v

def prettyItems (depth : Nat) : List Value → Text
  | [] => []
  | [v] => newLine depth ++ pretty depth v
  | v :: rest => newLine depth ++ pretty depth v ++ ',' :: prettyItems depth rest

def prettyFields (depth : Nat) : List (Points × Value) → Text
  | [] => []
  | [(key, v)] => newLine depth ++ writeText key ++ ':' :: ' ' :: pretty depth v
  | (key, v) :: rest =>
    newLine depth ++ writeText key ++ ':' :: ' ' :: pretty depth v ++ ',' :: prettyFields depth rest

end

end RemoteShell.Json
