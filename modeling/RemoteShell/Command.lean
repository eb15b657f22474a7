import RemoteShell.Line
import RemoteShell.Json.Fault

set_option autoImplicit false

namespace RemoteShell

structure Command where
  name : Text
  positionals : List Text
  options : Assoc Value

namespace Command

def optionName? : Text → Option Text
  | '-' :: '-' :: name => some name
  | _ => none

def isOption (token : Text) : Bool := (optionName? token).isSome

/-- The value of a strict JSON literal; any other text is its own value. -/
def decodeValue (token : Text) : Value := (Json.literal? token).getD (.text token)

/-- What a token is for. An option takes the next token as its value unless that is an option. -/
inductive Item where
  | word (token : Text)
  | flag (name : Text)
  | option (name token : Text)
  deriving DecidableEq, Repr

def items : List Text → List Item
  | [] => []
  | [t] =>
    match optionName? t with
    | none => [.word t]
    | some name => [.flag name]
  | t :: u :: rest =>
    match optionName? t with
    | none => .word t :: items (u :: rest)
    | some name =>
      if isOption u then .flag name :: items (u :: rest) else .option name u :: items rest

namespace Item

def word? : Item → Option Text
  | .word t => some t
  | _ => none

def entry? : Item → Option (Text × Value)
  | .word _ => none
  | .flag name => some (name, .bool true)
  | .option name t => some (name, decodeValue t)

end Item

def ofItems (is : List Item) : Command :=
  let words := is.filterMap Item.word?
  ⟨words.headD [], words.drop 1, Assoc.ofPairs (is.filterMap Item.entry?)⟩

def ofTokens (tokens : List Text) : Command := ofItems (items tokens)

/-- The command on a line, or the fragment that an open quote starts. -/
def ofLine (line : Text) : Except Text Command := (Line.tokens line).map ofTokens

end Command

end RemoteShell
