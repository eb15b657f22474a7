import RemoteShell.Fault

set_option autoImplicit false

namespace RemoteShell

inductive Argument where
  | word (t : Text)
  | words (ts : List Text)
  | options (o : Assoc Value)

abbrev Arguments := Assoc Argument

/-- Positionals fill the arguments in order, and the first `required` of them have to be given. -/
structure Descriptor (α : Type) where
  name : Text
  summary : Text
  handler : α
  arguments : List Text
  required : Nat
  /-- The options that are handed on; none of them declared means every option. -/
  options : Option (List Text)
  /-- The name that takes the positionals beyond the arguments. -/
  rest : Option Text

namespace Descriptor

variable {α : Type} (d : Descriptor α)

def rest? : Option Text := d.rest.filter fun name => !name.isEmpty

def argumentUsage (required : Nat) : List Text → List Text
  | [] => []
  | a :: rest =>
    (match required with
      | 0 => '[' :: a ++ [']']
      | _ + 1 => '<' :: a ++ ['>']) :: argumentUsage (required - 1) rest

def optionUsage : List Text :=
  match d.options with
  | none => ["[--option value ...]".toList]
  | some names => names.map fun name => "[--".toList ++ name ++ " value]".toList

def usage : Text :=
  Text.glue [' '] (d.name :: argumentUsage d.required d.arguments ++
    (d.rest?.toList.map fun name => '[' :: name ++ "...]".toList) ++ d.optionUsage)

def missing (given : Nat) : List Text := (d.arguments.take d.required).drop given

def declared (options : Assoc Value) : Option (Assoc Value) :=
  match d.options with
  | none => some options
  | some [] => none
  | some names => some (options.filter fun o => names.contains o.1)

def slots (positionals : List Text) (options : Assoc Value) : List (Text × Argument) :=
  (d.arguments.zip positionals).map (fun p => (p.1, .word p.2)) ++
    (d.rest?.toList.map fun name => (name, .words (positionals.drop d.arguments.length))) ++
    ((d.declared options).toList.map fun o => ("options".toList, .options o))

/-- The arguments by name. Of two slots with one name the later one is kept, in the first place. -/
def bind (positionals : List Text) (options : Assoc Value) : Except Fault Arguments :=
  if positionals.length < d.required then
    .error (.misuse d.name (.missing (d.missing positionals.length)) d.usage)
  else if d.arguments.length < positionals.length && d.rest?.isNone then
    .error (.misuse d.name (.tooMany d.arguments.length positionals.length) d.usage)
  else .ok (Assoc.ofPairs (d.slots positionals options))

end Descriptor

namespace Arguments

def word? (name : Text) (a : Arguments) : Option Text :=
  match Assoc.get? name a with
  | some (.word t) => some t
  | _ => none

def word (name : Text) (default : Text) (a : Arguments) : Text := (a.word? name).getD default

def options (a : Arguments) : Assoc Value :=
  match Assoc.get? "options".toList a with
  | some (.options o) => o
  | _ => []

end Arguments

end RemoteShell
