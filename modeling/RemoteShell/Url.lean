import RemoteShell.Url.Authority
import RemoteShell.Url.Reference

set_option autoImplicit false

namespace RemoteShell

namespace Url

def isControl (c : Char) : Bool := c.toNat < 0x20 || c.toNat = 0x7F

def refuseControls (s : Text) : Except Fault Unit :=
  match s.findIdx? isControl with
  | some index => .error (.control (s.getD index ' ') index)
  | none => .ok ()

/-- Taking one more segment onto the kept ones, whose latest is the head. The empty segment before a
leading slash always stays. -/
def keepSegment (kept : List Text) (segment : Text) : List Text :=
  if segment = ['.'] then kept
  else if segment = ['.', '.'] then
    if kept = [] ∨ kept = [[]] then kept else kept.drop 1
  else segment :: kept

def removeDots (path : Text) : Text :=
  Text.glue ['/'] ((Text.cut '/' path).foldl keepSegment []).reverse

end Url

/-- The address of a server. Its path ends in a slash and is percent-encoded. -/
structure Base where
  scheme : Text
  authority : Url.Authority
  path : Text
  fragment : Option Text

/-- A URL to send a request to. An authority goes with a scheme before it. -/
structure Url where
  scheme : Text
  authority : Url.Authority
  path : Text
  query : Option Text
  fragment : Option Text
  deriving DecidableEq

namespace Url

def isAbsolute (scheme : Text) (authority : Authority) : Bool :=
  !scheme.isEmpty || !authority.isAbsent

def cleanPath (scheme : Text) (authority : Authority) (path : Text) : Except Fault Text :=
  let path := percentEncode isPathChar path
  if !authority.isAbsent && !path.isEmpty && path.head? ≠ some '/' then .error .absolutePath
  else if isAbsolute scheme authority then .ok (removeDots path)
  else if Text.hasPrefix ['/', '/'] path then .error .relativeSlashes
  else if path.head? = some ':' then .error .relativeColon
  else .ok path

def clean (s : Text) : Except Fault Url := do
  refuseControls s
  let r := Reference.parse s
  let scheme := Text.lowerAscii r.scheme
  let authority ← Authority.parse scheme r.authority
  let path ← cleanPath scheme authority r.path
  return ⟨scheme, authority, path, r.query, r.fragment.map (percentEncode isFragmentChar)⟩

/-- The path and query in one text; an absent path is a slash. -/
def rawPath (u : Url) : Text :=
  (if u.path.isEmpty then ['/'] else u.path) ++
    match u.query with
    | some q => '?' :: q
    | none => []

end Url

namespace Base

def parse (s : Text) : Except Url.Fault Base := do
  let u ← Url.clean s
  let raw := u.rawPath
  return ⟨u.scheme, u.authority, if raw.getLast? = some '/' then raw else raw ++ ['/'], u.fragment⟩

/-- The URL of a path on this server. Leading slashes of the path do not count, a query or fragment
in it is dropped, and a path that is a URL with a scheme and a host stands for itself. A URL may be
of any length here; clients turn down one of more than 65536 characters. -/
def url (base : Base) (path : Text) (query : Option Text) : Except Url.Fault Url := do
  let target ← Url.clean path
  if !target.scheme.isEmpty && !target.authority.host.isEmpty then
    return { target with query := query }
  else
    let raw := base.path ++ target.rawPath.dropWhile (· = '/')
    let path ← Url.cleanPath base.scheme base.authority (raw.takeWhile (· ≠ '?'))
    return ⟨base.scheme, base.authority, path, query, base.fragment⟩

end Base

namespace Url

def text (u : Url) : Text :=
  (if u.scheme.isEmpty then [] else u.scheme ++ [':']) ++
    (if u.authority.isAbsent then [] else '/' :: '/' :: u.authority.text) ++ u.path ++
    (match u.query with
      | some q => '?' :: q
      | none => []) ++
    match u.fragment with
    | some f => '#' :: f
    | none => []

def untagged (s : Text) : Text × Bool :=
  let tag := s.reverse.takeWhile (· ≠ '#')
  if tag.length = s.length then (s, false) else (s.take (s.length - tag.length - 1), !tag.isEmpty)

/-- Whether the text of a URL starts with a word and a colon, the fragment aside. -/
def isTyped (u : Url) : Bool :=
  let word := fun c => c != '/' && c != ':'
  let s := (untagged u.text).1
  s.head?.any word && (s.dropWhile word).head? = some ':'

def shortText (u : Url) : Text :=
  match untagged u.text with
  | (_, true) => u.text
  | (s, false) => s

/-- The path a server sees: percent-decoded, and a slash if there is none. -/
def seenPath (u : Url) : Text := if u.path.isEmpty then ['/'] else percentDecode u.path

end Url

end RemoteShell
