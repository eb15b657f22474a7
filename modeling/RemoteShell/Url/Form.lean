import RemoteShell.Url

/-! Form encoding of a query: pairs joined by `&`, a space as `+`, and every character but letters,
digits and `-._~` as percent-encoded octets. -/

set_option autoImplicit false

namespace RemoteShell.Url.Form

def encodePart (s : Text) : Text :=
  s.flatMap fun c =>
    if c = ' ' then ['+']
    else if isUnreserved c then [c]
    else (Utf8.encodeChar c).flatMap percentOctet

def encodePair (pair : Text × Text) : Text := encodePart pair.1 ++ '=' :: encodePart pair.2

def encode (pairs : List (Text × Text)) : Text := Text.glue ['&'] (pairs.map encodePair)

def decodePart (s : Text) : Text := percentDecode (s.map fun c => if c = '+' then ' ' else c)

def decodePair (s : Text) : Text × Text :=
  let (key, value) := Text.cutOnce '=' s
  (decodePart key, decodePart (value.getD []))

def decode (s : Text) : List (Text × Text) :=
  if s.isEmpty then [] else (Text.cut '&' s).map decodePair

end RemoteShell.Url.Form
