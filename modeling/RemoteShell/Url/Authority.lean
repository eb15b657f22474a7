import RemoteShell.Assoc
import RemoteShell.Domain
import RemoteShell.Number.Numeral
import RemoteShell.Text.Case
import RemoteShell.Url.Address
import RemoteShell.Url.Fault
import RemoteShell.Url.Percent

set_option autoImplicit false

namespace RemoteShell.Url

/-- An empty user or host is an absent one. -/
structure Authority where
  user : Text
  host : Text
  port : Option Int
  deriving DecidableEq

namespace Authority

def isAbsent (a : Authority) : Bool := a.user.isEmpty && a.host.isEmpty && a.port.isNone

def place (a : Authority) : Text := a.host ++ a.port.elim [] fun n => ':' :: Text.ofInt n

def text (a : Authority) : Text := (if a.user.isEmpty then [] else a.user ++ ['@']) ++ a.place

def takeUser (s : Text) : Text × Text :=
  let rest := (s.reverse.takeWhile (· ≠ '@')).reverse
  (s.take (s.length - rest.length - 1), rest)

/-- The host, up to the port; a host in brackets may hold colons. -/
def takeHost (s : Text) : Text × Text :=
  let bracketed := s.take (s.length - (s.reverse.takeWhile (· ≠ ']')).length)
  if s.head? = some '[' ∧ !bracketed.isEmpty then (bracketed, s.drop bracketed.length)
  else (s.takeWhile (· ≠ ':'), s.dropWhile (· ≠ ':'))

def defaultPorts : Assoc Int :=
  [("ftp".toList, 21), ("http".toList, 80), ("https".toList, 443), ("ws".toList, 80),
    ("wss".toList, 443)]

/-- The port, unless it is absent or the one that the scheme implies. -/
def checkedPort (scheme written : Text) : Except Fault (Option Int) :=
  if written.isEmpty then .ok none
  else
    match Numeral.integer? written with
    | some n => .ok (if Assoc.get? scheme defaultPorts = some n then none else some n)
    | none => .error (.port written)

def inBrackets? (host : Text) : Option Text :=
  if host.head? = some '[' ∧ host.getLast? = some ']' then some (host.drop 1).dropLast else none

/-- Addresses stay as they are written; names come in small letters and in ASCII. -/
def checkedHost (written : Text) : Except Fault Text :=
  if looksLikeAddress written then
    if isAddress written then .ok written else .error (.address written)
  else
    match inBrackets? written with
    | some inner => if isLongAddress inner then .ok written else .error (.longAddress written)
    | none =>
      if written.all Domain.Punycode.isAscii then
        .ok (Text.lowerAscii (percentEncode isHostChar (Text.lowerAscii written)))
      else
        match Domain.encode? (Text.lower written) with
        | some name => .ok name
        | none => .error (.domain written)

def parse (scheme s : Text) : Except Fault Authority := do
  let (user, rest) := takeUser s
  let (written, rest) := takeHost rest
  let host ← checkedHost written
  let port ← checkedPort scheme (if rest.head? = some ':' then rest.drop 1 else rest)
  return ⟨percentEncode isUserChar user, host, port⟩

end Authority

end RemoteShell.Url
