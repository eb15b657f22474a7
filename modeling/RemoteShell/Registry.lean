import RemoteShell.Command
import RemoteShell.Descriptor
import RemoteShell.Markup

set_option autoImplicit false

namespace RemoteShell

/-- The help command answers from the registry itself; every other handler has an action. -/
inductive Handler (α : Type) where
  | help
  | action (a : α)

structure Registry (α : Type) where
  descriptors : List (Descriptor (Handler α))
  fallback : Text
  isFrozen : Bool

namespace Registry

inductive Refusal where
  | frozen
  | registered (name : Text)
  | noFallback (name : Text)
  deriving DecidableEq, Repr

def Refusal.message : Refusal → Text
  | .frozen => "Command registry is frozen".toList
  | .registered name => "Command already registered: ".toList ++ name
  | .noFallback name => "Fallback command not registered: ".toList ++ name

def helpName : Text := "help".toList

variable {α : Type}

def empty (fallback : Text) : Registry α := ⟨[], fallback, false⟩

def get? (r : Registry α) (name : Text) : Option (Descriptor (Handler α)) :=
  r.descriptors.find? fun d => d.name == name

def contains (r : Registry α) (name : Text) : Bool := (r.get? name).isSome

def names (r : Registry α) : List Text := r.descriptors.map (·.name)

def register (r : Registry α) (d : Descriptor (Handler α)) : Except Refusal (Registry α) :=
  if r.isFrozen then .error .frozen
  else if r.contains d.name then .error (.registered d.name)
  else .ok { r with descriptors := r.descriptors ++ [d] }

def freeze (r : Registry α) : Except Refusal (Registry α) :=
  if r.contains r.fallback then .ok { r with isFrozen := true } else .error (.noFallback r.fallback)

def fallback? (r : Registry α) : Except Fault (Descriptor (Handler α)) :=
  match r.get? r.fallback with
  | some d => .ok d
  | none => .error (.noFallback r.fallback)

def helpDescriptor : Descriptor (Handler α) where
  name := helpName
  summary := "List commands, or show usage for one command".toList
  handler := .help
  arguments := ["command".toList]
  required := 0
  options := some []
  rest := some "args".toList

def nameWidth (r : Registry α) : Nat := (r.names.map List.length).foldl max 0

def listing (r : Registry α) : Text :=
  "I know commands:\n".toList ++
    Text.glue ['\n'] (r.descriptors.map fun d =>
      ' ' :: ' ' ::
        Markup.tagged "cyan".toList (Markup.escape (Text.padRight r.nameWidth d.name)) ++
          ' ' :: ' ' :: Markup.escape d.summary)

def details (d : Descriptor (Handler α)) : Text :=
  Markup.tagged "bold".toList (Markup.escape d.usage) ++ "\n  ".toList ++ Markup.escape d.summary

/-- Help on one command, or on all of them where the word is empty or no command. -/
def help (r : Registry α) (command : Text) : Text :=
  if command.isEmpty then r.listing
  else
    match r.get? command with
    | some d => details d
    | none =>
      "command ".toList ++ Markup.tagged "bold".toList (Markup.escape command) ++
        " not found.\n".toList ++ r.listing

def route (r : Registry α) (c : Command) : Except Fault (Descriptor (Handler α) × Arguments) :=
  match r.get? c.name with
  | some d => (d.bind c.positionals c.options).map fun a => (d, a)
  | none =>
    match r.fallback? with
    | .ok d => (d.bind (c.name :: c.positionals) c.options).map fun a => (d, a)
    | .error fault => .error fault

inductive Step (α : Type) where
  | say (markup : Text)
  | act (name : Text) (a : α) (arguments : Arguments)

def dispatch (r : Registry α) (c : Command) : Except Fault (Step α) :=
  (r.route c).map fun (d, arguments) =>
    match d.handler with
    | .help => .say (r.help (arguments.word "command".toList []))
    | .action a => .act d.name a arguments

def dispatchLine (r : Registry α) (line : Text) : Except Fault (Step α) :=
  match Command.ofLine line with
  | .ok c => r.dispatch c
  | .error fragment => .error (.openQuote fragment)

end Registry

structure Result where
  markup : Text
  isError : Bool
  sequence : Int
  line : Text
  deriving DecidableEq, Repr

def Result.of (line : Text) (sequence : Int) : Except Fault Text → Result
  | .ok markup => ⟨markup, false, sequence, line⟩
  | .error fault => ⟨fault.shown, true, sequence, line⟩

end RemoteShell
