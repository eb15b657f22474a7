import RemoteShell.Batch
import RemoteShell.History
import RemoteShell.Queue

set_option autoImplicit false

namespace RemoteShell

namespace Interactive

inductive Input where
  | line (text : Text)
  | interrupt
  | endOfInput
  /-- No answer to the prompt: all lines submitted so far are finished first. -/
  | settle
  deriving DecidableEq, Repr

def exitWords : List Text := ["exit".toList, "quit".toList]

def completions : List Text := FileCommand.registry.names ++ exitWords

def isBlankLine (line : Text) : Bool := (Text.strip line).isEmpty

def isExit (line : Text) : Bool := exitWords.contains (Text.lower (Text.strip line))

end Interactive

structure Interactive where
  session : Session
  history : History
  queue : Queue
  output : Text
  prompts : Nat

namespace Interactive

/-- What is shown of markup texts; one that cannot be printed is left out. -/
def shown (width : Nat) (markups : List Text) : Text :=
  markups.flatMap fun m => (Console.print width m).toOption.getD []

def start (width : Nat) (address : Text) (session : Session) (history : History)
    (isOrdered : Bool) : Interactive :=
  ⟨session, history, .empty isOrdered, shown width (Transcript.status address session.workPath), 0⟩

def say (i : Interactive) (text : Text) : Interactive := { i with output := i.output ++ text }

def prompted (i : Interactive) : Interactive := { i with prompts := i.prompts + 1 }

def submit (i : Interactive) (line : Text) : Interactive :=
  { i with history := i.history.append line, queue := i.queue.submit line }

def complete (s : Session) (item : Submission) : Session × Option Completion :=
  let (s, result) := s.execute item.line item.sequence
  (s, result.map fun r => ⟨0, r⟩)

/-- Finishing the pending lines. The truth value says that none was broken off. -/
def settle (width : Nat) (i : Interactive) : Interactive × Bool :=
  let (session, results, finished) := i.queue.drain complete i.session
  let text := results.flatMap fun r => (r.shown width).toOption.getD []
  ({ i with session := session, queue := i.queue.cleared, output := i.output ++ text }, finished)

/-- What an input comes to: the conversation goes on, or it ends. The truth value says that no line
was broken off. -/
inductive Turn where
  | goesOn (i : Interactive)
  | ends (i : Interactive) (isFinished : Bool)

def close (width : Nat) (i : Interactive) : Turn :=
  match i.settle width with
  | (i, true) => .ends (i.say (shown width [Transcript.farewell])) true
  | (i, false) => .ends i false

def interruptedNote : Text := Transcript.info "Interrupted. Type exit to quit.".toList

def take (width : Nat) (i : Interactive) : Input → Turn
  | .endOfInput => close width i.prompted
  | .interrupt => .goesOn (i.prompted.say (shown width [interruptedNote]))
  | .settle =>
    match i.settle width with
    | (i, true) => .goesOn i
    | (i, false) => .ends i.prompted false
  | .line line =>
    if isBlankLine line then .goesOn i.prompted
    else if isExit line then close width i.prompted
    else .goesOn (i.prompted.submit line)

structure Ended where
  last : Interactive
  unread : Nat
  isFinished : Bool

def run (width : Nat) (i : Interactive) : List Input → Ended
  | [] =>
    match i.take width .endOfInput with
    | .goesOn i => ⟨i, 0, true⟩
    | .ends i isFinished => ⟨i, 0, isFinished⟩
  | input :: rest =>
    match i.take width input with
    | .goesOn i => run width i rest
    | .ends i isFinished => ⟨i, rest.length, isFinished⟩

end Interactive

end RemoteShell
