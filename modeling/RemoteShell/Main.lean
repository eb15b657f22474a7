import RemoteShell.Http.Wire
import RemoteShell.Program
import Std.Async

/-! The program on a real console, disk and network. A line is planned first; the request that it is
about to make is sent, and its reply is scripted for the line. -/

set_option autoImplicit false

namespace RemoteShell.Main

open Std.Async Std.Net

def say (t : Text) : IO Unit := do
  let out ← IO.getStdout
  out.putStr (String.ofList t)
  out.flush

def complain (t : Text) : IO Unit := do
  let err ← IO.getStderr
  err.putStr (String.ofList t)
  err.flush

def realPath (home : String) (l : Location) : String :=
  match l with
  | .home path => home ++ "/" ++ String.ofList path
  | .given path => String.ofList path

def homePath : IO String := do
  return (← IO.getEnv "HOME").getD ""

def addFile (home : String) (d : Disk) (l : Location) : IO Disk := do
  try
    let content ← IO.FS.readBinFile (realPath home l)
    return (d.write l content.data.toList).1
  catch _ => return d

def addFiles (home : String) (d : Disk) (files : List Location) : IO Disk :=
  files.foldlM (addFile home) d

def above : Location → Location
  | .home path => .home (path.reverse.dropWhile (· ≠ '/')).reverse
  | .given path => .given (path.reverse.dropWhile (· ≠ '/')).reverse

/-- Writes a file if its content is not what it was. A failure is passed over. -/
def keepFile (home : String) (before after : Disk) (l : Location) : IO Unit := do
  match after.read l with
  | .ok content =>
    if (before.read l).toOption ≠ some content then
      try
        let directory := realPath home (above l)
        if !directory.isEmpty then IO.FS.createDirAll directory
        IO.FS.writeBinFile (realPath home l) ⟨content.toArray⟩
      catch _ => pure ()
  | .error _ => pure ()

partial def receive (client : TCP.Socket.Client) (received : Octets) : Async Octets := do
  if (Wire.response? false received).isSome then return received
  match ← client.recv? 65536 with
  | some part => receive client (received ++ part.data.toList)
  | none => return received

def socketAddress (port : Nat) : IPAddr → SocketAddress
  | .v4 address => .v4 ⟨address, port.toUInt16⟩
  | .v6 address => .v6 ⟨address, port.toUInt16⟩

def dropped : Reply :=
  .failed "RemoteProtocolError".toList "Server disconnected without sending a response.".toList

def converse (e : Endpoint) (octets : Octets) (address : IPAddr) : Async Reply := do
  let client ← TCP.Socket.Client.mk
  client.connect (socketAddress e.port address)
  client.send ⟨octets.toArray⟩
  let received ← receive client []
  return (Wire.response? true received).elim dropped .answered

/-- The first address that takes the connection counts. -/
def exchange (e : Endpoint) (octets : Octets) : Async Reply := do
  let addresses ← DNS.getAddrInfo (String.ofList e.host) (toString e.port)
  let mut reply : Reply :=
    .failed "ConnectError".toList "All connection attempts failed".toList
  for address in addresses do
    try
      return ← converse e octets address
    catch problem =>
      reply := .failed "ConnectError".toList problem.toString.toList
  return reply

def overdue : Reply := .failed "ReadTimeout".toList []

def timed (patience : Option Nat) (work : Async Reply) : Async Reply :=
  match patience with
  | none => work
  | some limit => do
    let reply ← Async.race (some <$> work) (do sleep (.ofNat limit); return none)
    return reply.getD overdue

def fetch (patience : Option Nat) (r : Request) : IO Reply := do
  match r.url.endpoint? with
  | none =>
    return .failed "UnsupportedProtocol".toList
      ("Request URL has an unsupported protocol: ".toList ++ r.url.text)
  | some e =>
    try
      (timed patience (exchange e (Wire.request r))).block
    catch problem => return .failed "ConnectError".toList problem.toString.toList

/-- A session in which the request of a line has its reply. -/
def supplied (patience : Option Nat) (s : Session) (line : Text) : IO Session := do
  match s.request? line with
  | some r =>
    let reply ← fetch patience r
    return { s with connection := { s.connection with script := [.reply reply] } }
  | none => return s

def runLines (columns : Nat) (patience : Option Nat) :
    Nat → Session → List Text → IO (Except Program.Crash Bool)
  | _, _, [] => return .ok false
  | sequence, s, line :: rest => do
    let s ← supplied patience s line
    let done := Batch.run columns sequence s [line]
    say done.output
    match done.ending with
    | .unprintable fault => return .error (.markup fault)
    | _ =>
      let more ← runLines columns patience (sequence + 1) done.session rest
      return more.map (done.hasFailed || ·)

def readInput : IO Interactive.Input := do
  let line ← (← IO.getStdin).getLine
  if line.isEmpty then return .endOfInput
  let text := line.toList
  return .line (if text.getLast? = some '\n' then text.dropLast else text)

def supplyPending (patience : Option Nat) (i : Interactive) : IO Interactive := do
  match i.queue.pending with
  | item :: _ => return { i with session := ← supplied patience i.session item.line }
  | [] => return i

def flushed (i : Interactive) : IO Interactive := do
  say i.output
  return { i with output := [] }

partial def converseAtPrompt (columns : Nat) (patience : Option Nat) (prompt : Text)
    (i : Interactive) : IO Interactive := do
  let i ← flushed i
  say prompt
  match i.take columns (← readInput) with
  | .ends i _ => flushed i
  | .goesOn i =>
    let i ← supplyPending patience i
    match i.take columns .settle with
    | .ends i _ => flushed i
    | .goesOn i => converseAtPrompt columns patience prompt i

def defaultColumns : Nat := 80

def columns (environment : Assoc Text) : Nat :=
  match (Assoc.get? "COLUMNS".toList environment).bind Numeral.integer? with
  | some n => if 0 < n then n.toNat else defaultColumns
  | none => defaultColumns

def environment : IO (Assoc Text) := do
  let found ← Std.Internal.UV.System.osEnviron
  return found.toList.map fun v => (v.1.toList, v.2.toList)

def surroundings (home : String) (arguments : List String) : IO Program.Surroundings := do
  let environment ← environment
  let bare : Program.Surroundings :=
    ⟨arguments.map String.toList, environment, columns environment, .empty⟩
  let settled := { bare with disk := ← addFiles home bare.disk (Program.settingsFiles bare) }
  let files := (Program.historyFile? settled).toList
  return { settled with disk := ← addFiles home settled.disk files }

def exitWith : Except Program.Crash Nat → IO UInt32
  | .ok code => return code.toUInt32
  | .error crash => do
    complain (crash.message ++ ['\n'])
    return 1

def runReady (home : String) (around : Program.Surroundings) (r : Program.Ready) : IO UInt32 := do
  let s := r.session (.ofFiles []) []
  let patience := r.patience?
  let (history, exit) ←
    if r.lines.isEmpty then do
      let i := r.interactive around.columns s
      let last ← converseAtPrompt around.columns patience r.settings.prompt i
      pure (last.history, .ok 0)
    else do
      let (lines, stops) := r.texts
      let failed ← runLines around.columns patience 1 s lines
      pure (r.history, failed.bind fun hasFailed =>
        if stops then .error .noLine else .ok (Program.exitCode hasFailed))
  let after := r.saved around.disk history
  r.settings.historyFile.toList.forM (keepFile home around.disk after)
  exitWith exit

def run (arguments : List String) : IO UInt32 := do
  let home ← homePath
  let around ← surroundings home arguments
  match Program.start around with
  | .error (.exit code output complaint) =>
    say output
    complain complaint
    exitWith (.ok code)
  | .error (.crash c) => exitWith (.error c)
  | .ok r => runReady home around r

end RemoteShell.Main

def main (arguments : List String) : IO UInt32 := RemoteShell.Main.run arguments
