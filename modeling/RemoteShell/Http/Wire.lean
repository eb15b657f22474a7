import RemoteShell.Http

set_option autoImplicit false

namespace RemoteShell

structure Endpoint where
  host : Text
  port : Nat
  deriving DecidableEq, Repr

namespace Url

def plainScheme : Text := "http".toList

def plainPort : Int := 80

def bareHost (host : Text) : Text := host.filter fun c => c != '[' && c != ']'

/-- The endpoint of a URL, unless it asks for another protocol or has no host. -/
def endpoint? (u : Url) : Option Endpoint :=
  if u.scheme = plainScheme ∧ !u.authority.host.isEmpty then
    some ⟨bareHost u.authority.host, (u.authority.port.getD plainPort).toNat⟩
  else none

end Url

namespace Wire

def lineEnd : Octets := [13, 10]

def line (s : Text) : Octets := Utf8.encode s ++ lineEnd

def request (r : Request) : Octets :=
  let body := Utf8.encode r.body
  line (r.method.name ++ ' ' :: r.url.rawPath ++ " HTTP/1.1".toList) ++
    line ("Host: ".toList ++ r.url.authority.place) ++ line "Accept: */*".toList ++
    line "Connection: close".toList ++
    line ("Content-Length: ".toList ++ Text.ofNat body.length) ++ lineEnd ++ body

/-- The lines up to an empty one, and what follows it. What was read of a line is in reverse. -/
def head? (lines : List Octets) (begun : Octets) : Octets → Option (List Octets × Octets)
  | [] => none
  | [_] => none
  | a :: b :: rest =>
    if a = 13 ∧ b = 10 then
      if begun.isEmpty then some (lines.reverse, rest)
      else head? (begun.reverse :: lines) [] rest
    else head? lines (a :: begun) (b :: rest)

def status? (line : Octets) : Option Nat :=
  match Text.cut ' ' (Utf8.decode line) with
  | _ :: code :: _ => if Text.isWhole code then some (Text.readDigits code) else none
  | _ => none

def field? (line : Octets) : Option (Text × Text) :=
  match Text.cutOnce ':' (Utf8.decode line) with
  | (name, some value) => some (Text.lowerAscii name, Text.strip value)
  | (_, none) => none

inductive Framing where
  | sized (length : Nat)
  | chunked
  | untilClosed
  deriving DecidableEq, Repr

def framing (fields : Assoc Text) : Framing :=
  match Assoc.get? "transfer-encoding".toList fields, Assoc.get? "content-length".toList fields with
  | some coding, length =>
    if Text.lowerAscii coding = "chunked".toList then .chunked
    else length.elim .untilClosed fun n => .sized (Text.readDigits n)
  | none, some n => if Text.isWhole n then .sized (Text.readDigits n) else .untilClosed
  | none, none => .untilClosed

def readHex (digits : Text) : Nat := digits.foldl (fun n c => 16 * n + (Text.hexValue? c).getD 0) 0

/-- The size of the next chunk, which stands on a line before it, and what follows that line. -/
def chunkSize? (begun : Octets) : Octets → Option (Nat × Octets)
  | [] => none
  | [_] => none
  | a :: b :: rest =>
    if a = 13 ∧ b = 10 then
      let digits := (Utf8.decode begun.reverse).takeWhile fun c => (Text.hexValue? c).isSome
      some (readHex digits, rest)
    else chunkSize? (a :: begun) (b :: rest)

/-- The body in chunks, once the last one is there. Each chunk takes at least one unit of the first
argument. -/
def chunks? : Nat → Octets → Option Octets
  | 0, _ => none
  | fuel + 1, octets =>
    match chunkSize? [] octets with
    | none => none
    | some (0, _) => some []
    | some (size, rest) =>
      if rest.length < size + lineEnd.length then none
      else (chunks? fuel (rest.drop (size + lineEnd.length))).map (rest.take size ++ ·)

def hasNoBody (status : Nat) : Bool := status = 204 || status = 304

def body? (isClosed : Bool) (f : Framing) (octets : Octets) : Option Octets :=
  match f with
  | .sized length => if octets.length < length then none else some (octets.take length)
  | .chunked => chunks? octets.length octets
  | .untilClosed => if isClosed then some octets else none

/-- The response in what was received so far, once it is complete. -/
def response? (isClosed : Bool) (received : Octets) : Option Response :=
  match head? [] [] received with
  | some (first :: fields, rest) =>
    match status? first with
    | some status =>
      if hasNoBody status then some ⟨status, []⟩
      else (body? isClosed (framing (fields.filterMap field?)) rest).map fun body => ⟨status, body⟩
    | none => none
  | _ => none

end Wire

end RemoteShell
