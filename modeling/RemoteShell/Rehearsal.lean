import RemoteShell.Number.Numeral
import RemoteShell.Queue

set_option autoImplicit false

namespace RemoteShell

inductive Rehearsal where
  | fast | wait | boom
  deriving DecidableEq, Repr

namespace Rehearsal

def descriptor (name summary : String) (r : Rehearsal) (arguments : List Text) :
    Descriptor (Handler Rehearsal) :=
  ⟨name.toList, summary.toList, .action r, arguments, arguments.length, some [], none⟩

def ticksName : Text := "ticks".toList

def registry : Registry Rehearsal :=
  ⟨[descriptor "fast" "Fast command" .fast [], descriptor "wait" "Slow command" .wait [ticksName],
      descriptor "boom" "Failing command" .boom [], Registry.helpDescriptor],
    Registry.helpName, true⟩

def notInteger (s : Text) : Fault :=
  .raised "ValueError".toList
    ("invalid literal for int() with base 10: ".toList ++ Text.quoted s)

def outcome (a : Arguments) : Rehearsal → Nat × Except Fault Text
  | .fast => (0, .ok "fast".toList)
  | .wait =>
    let ticks := a.word ticksName []
    match Numeral.integer? ticks with
    | some n => (n.toNat, .ok ("waited ".toList ++ ticks))
    | none => (0, .error (notInteger ticks))
  | .boom => (0, .error (.raised "RuntimeError".toList "boom".toList))

/-- A line as it completes; all but a valid wait take no ticks. -/
def complete (s : Submission) : Completion :=
  let (ticks, outcome) :=
    match registry.dispatchLine s.line with
    | .error fault => (0, .error fault)
    | .ok (.say markup) => (0, .ok markup)
    | .ok (.act _ r arguments) => r.outcome arguments
  ⟨ticks, .of s.line s.sequence outcome⟩

end Rehearsal

end RemoteShell
