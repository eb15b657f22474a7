import RemoteShell.Command
import RemoteShell.Json.Write

set_option autoImplicit false

namespace RemoteShell.Command

/-- A text stands for itself; every other value is written as JSON. A line has characters only, so
that a half in a text is replaced here. -/
def renderValue : Value → Text
  | .text s => s.toText
  | v => Json.write v

def optionTokens (entry : Text × Value) : List Text :=
  match entry.2 with
  | .bool true => ['-' :: '-' :: entry.1]
  | v => ['-' :: '-' :: entry.1, renderValue v]

/-- A name and options as a line. Nothing is quoted. -/
def write (name : Text) (options : Assoc Value) : Text :=
  Text.glue [' '] (name :: options.flatMap optionTokens)

structure Flat where
  words : List Value
  options : Value.Fields

namespace Flat

/-- The last item of a flat command is its option map. -/
def ofList? (items : List Value) : Option Flat :=
  match items.getLast? with
  | some (.map options) => some ⟨items.dropLast, options⟩
  | _ => none

def name (f : Flat) : Value := f.words.headD (.text [])

def positionals (f : Flat) : List Value := f.words.drop 1

def toList (f : Flat) : List Value := f.name :: f.positionals ++ [.map f.options]

end Flat

def flat (c : Command) : Flat := ⟨.text c.name :: c.positionals.map Value.ofText, c.options⟩

def same (c : Command) (name : Text) (options : Assoc Value) : Bool :=
  c.name == name && c.positionals.isEmpty && Value.same (.map c.options) (.map options)

end RemoteShell.Command
