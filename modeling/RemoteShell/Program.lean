import RemoteShell.History.File
import RemoteShell.Interactive
import RemoteShell.Invocation.Help
import RemoteShell.Settings.LogLevel
import RemoteShell.Settings.Sources

/-! The program from its arguments to its exit: settings are put together, the history is loaded,
and lines are run from the arguments or taken at a prompt. Whatever happens on the way, the history
is saved once it was loaded. -/

set_option autoImplicit false

namespace RemoteShell.Program

/-- What ends the program with a message of its own instead of an exit code. -/
inductive Crash where
  | fault (f : Fault)
  | markup (f : Markup.Fault)
  | logLevel (f : LogLevel.Fault)
  | noFile
  | noLine

def Crash.message : Crash → Text
  | .fault f => f.shown
  | .markup f => f.message
  | .logLevel f => f.message
  | .noFile => "expected str, bytes or os.PathLike object, not list".toList
  | .noLine => "expected string or bytes-like object, got 'list'".toList

structure Surroundings where
  arguments : List Text
  environment : Assoc Text
  columns : Nat
  disk : Disk

inductive Early where
  | exit (code : Nat) (output complaint : Text)
  | crash (c : Crash)

structure Ready where
  settings : Settings
  lines : List (Given Text)
  history : History
  base : Base

def configLocation? (i : Invocation) : Option Location :=
  match i.config with
  | some (.value path) => some (.given path)
  | some .nothing => none
  | none => some Settings.defaultFile

/-- A value that overrides a setting; nothing is an empty list, which fits no setting. -/
def overriding {α : Type} (f : α → Value) : Given α → Value
  | .value a => f a
  | .nothing => .list []

def overrides (i : Invocation) : Assoc Value :=
  (i.url.toList.map fun u => ("base_url".toList, overriding Value.ofText u)) ++
    (i.timeout.toList.map fun x => ("timeout".toList, overriding .real x)) ++
    (i.logLevel.toList.map fun l => ("log_level".toList, overriding Value.ofText l)) ++
    if i.isUnordered then [("ordered".toList, .bool false)] else []

def invocation (around : Surroundings) : Except Early Invocation :=
  match Invocation.parse around.arguments with
  | .ok i => .ok i
  | .error .help => .error (.exit 0 (Invocation.help around.columns) [])
  | .error .version => .error (.exit 0 Invocation.versionText [])
  | .error (.refused r) => .error (.exit 2 [] (Invocation.complaint around.columns r))

def settings (around : Surroundings) (i : Invocation) : Except Early Settings :=
  match configLocation? i with
  | none => .error (.crash .noFile)
  | some file =>
    match Settings.load around.disk around.environment file (overrides i) with
    | .ok s => .ok s
    | .error (.unreadable (.longName path)) => .error (.crash (.fault (.longName path)))
    | .error fault =>
      .error (.exit 1 [] ("Configuration Error: ".toList ++ fault.message ++ ['\n']))

def begin (around : Surroundings) (i : Invocation) (s : Settings) : Except Crash Ready :=
  match LogLevel.number s.logLevel with
  | .error fault => .error (.logLevel fault)
  | .ok _ =>
    match (History.empty (some s.maxHistory)).load s.historyFile around.disk with
    | (_, some fault) => .error (.fault fault)
    | (history, none) =>
      match Base.parse s.baseUrl with
      | .error fault => .error (.fault (.badUrl fault))
      | .ok base => .ok ⟨s, i.command.getD [], history, base⟩

def start (around : Surroundings) : Except Early Ready := do
  let i ← invocation around
  let s ← settings around i
  (begin around i s).mapError .crash

def settingsFiles (around : Surroundings) : List Location :=
  match invocation around with
  | .ok i => Settings.envFile :: (configLocation? i).toList
  | .error _ => []

def historyFile? (around : Surroundings) : Option Location :=
  match invocation around with
  | .ok i => (settings around i).toOption.bind Settings.historyFile
  | .error _ => none

def Ready.session (r : Ready) (server : Server) (script : List Scripted) : Session :=
  ⟨Session.startPath Path.root, ⟨r.base, server, script, []⟩⟩

def Ready.interactive (r : Ready) (columns : Nat) (s : Session) : Interactive :=
  .start columns r.settings.baseUrl s r.history r.settings.isOrdered

def Ready.patience? (r : Ready) : Option Nat :=
  match r.settings.timeout with
  | .finite false mantissa exponent =>
    let (num, den) := Double.scaleDown 2 (1000 * mantissa) 1 (-exponent)
    some (num / den)
  | .finite true _ _ => some 0
  | .infinite _ | .nan => none

def Ready.saved (r : Ready) (disk : Disk) (history : History) : Disk :=
  (history.save r.settings.historyFile disk).2

structure Ended where
  exit : Except Crash Nat
  output : Text
  complaint : Text
  prompts : List Text
  server : Server
  sent : List Request
  timeout : Option Double
  disk : Disk

def brokenOffNote : Text := "\n\nInterrupted. Goodbye!\n".toList

def exitCode (hasFailed : Bool) : Nat := if hasFailed then 1 else 0

def finish (r : Ready) (disk : Disk) (history : History) (exit : Except Crash Nat)
    (output complaint : Text) (prompted : Nat) (c : Connection) : Ended where
  exit := exit
  output := output
  complaint := complaint
  prompts := List.replicate prompted r.settings.prompt
  server := c.server
  sent := c.sent
  timeout := if c.sent.isEmpty then none else some r.settings.timeout
  disk := r.saved disk history

/-- The lines before the first that is nothing, and whether there is one. -/
def Ready.texts (r : Ready) : List Text × Bool :=
  let isText := fun (g : Given Text) => g != .nothing
  ((r.lines.takeWhile isText).filterMap Given.toOption, !r.lines.all isText)

/-- Running the lines of the arguments. They are not recorded. -/
def runLines (r : Ready) (around : Surroundings) (s : Session) : Ended :=
  let (lines, stops) := r.texts
  let done := Batch.run around.columns 1 s lines
  let ended := fun exit complaint =>
    finish r around.disk r.history exit done.output complaint 0 done.session.connection
  match done.ending with
  | .finished => ended (if stops then .error .noLine else .ok (exitCode done.hasFailed)) []
  | .brokenOff => ended (.ok 0) brokenOffNote
  | .unprintable fault => ended (.error (.markup fault)) []

def converse (r : Ready) (around : Surroundings) (s : Session)
    (inputs : List Interactive.Input) : Ended :=
  let ended := (r.interactive around.columns s).run around.columns inputs
  let last := ended.last
  finish r around.disk last.history (.ok 0) last.output
    (if ended.isFinished then [] else brokenOffNote) last.prompts last.session.connection

/-- The whole program over a remote in memory, with scripted answers and inputs at the prompt. -/
def run (around : Surroundings) (server : Server) (script : List Scripted)
    (inputs : List Interactive.Input) : Ended :=
  match start around with
  | .error (.exit code output complaint) =>
    ⟨.ok code, output, complaint, [], server, [], none, around.disk⟩
  | .error (.crash c) => ⟨.error c, [], [], [], server, [], none, around.disk⟩
  | .ok r =>
    let s := r.session server script
    if r.lines.isEmpty then converse r around s inputs else runLines r around s

end RemoteShell.Program
