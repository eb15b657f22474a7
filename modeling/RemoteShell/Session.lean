import RemoteShell.Connection
import RemoteShell.FileCommand

set_option autoImplicit false

namespace RemoteShell

structure Session where
  workPath : Text
  connection : Connection

namespace Session

/-- The working path named by `path`, which is a directory below the root. -/
def startPath (path : Text) : Text := Path.asDirectory (Path.resolve Path.root path)

def start (base : Base) (files : List (Text × Text)) (path : Text) : Session :=
  ⟨startPath path, ⟨base, .ofFiles files, [], []⟩⟩

def plan (s : Session) (line : Text) : Except Fault Plan :=
  (FileCommand.registry.dispatchLine line).map fun step =>
    match step with
    | .say markup => .say markup
    | .act _ c arguments => c.plan s.workPath arguments

def request? (s : Session) (line : Text) : Option Request :=
  match s.plan line with
  | .ok (.ask call _) => (call.request s.connection.base).toOption
  | _ => none

/-- Carrying out a plan. Without an outcome it was broken off. -/
def perform (s : Session) : Plan → Session × Option (Except Fault Text)
  | .say markup => (s, some (.ok markup))
  | .move workPath markup => ({ s with workPath := workPath }, some (.ok markup))
  | .ask call report =>
    let (connection, response) := s.connection.ask call
    ({ s with connection := connection }, response.map fun r => r.bind report)

def execute (s : Session) (line : Text) (sequence : Int) : Session × Option Result :=
  match s.plan line with
  | .error fault => (s, some (.of line sequence (.error fault)))
  | .ok plan =>
    let (s, outcome) := s.perform plan
    (s, outcome.map (.of line sequence))

end Session

end RemoteShell
