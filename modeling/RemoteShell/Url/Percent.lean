import RemoteShell.Text.Utf8

set_option autoImplicit false

namespace RemoteShell.Url

def isUnreserved (c : Char) : Bool :=
  Text.isLetter c || Text.isDigit c || c = '-' || c = '.' || c = '_' || c = '~'

/-- Printable ASCII that may stand in a path as it is; a percent sign is among it. -/
def isPathChar (c : Char) : Bool :=
  0x20 < c.toNat && c.toNat < 0x7F &&
    !(c = '"' || c = '#' || c = '<' || c = '>' || c = '?' || c = '\x60' || c = '\x7b' || c = '\x7d')

def isHostChar (c : Char) : Bool :=
  isUnreserved c || "!$&'()*+,;=\"\x60\x7b\x7d%|\\".toList.contains c

def isUserChar (c : Char) : Bool :=
  isPathChar c && !"/;=@[\\]^|".toList.contains c

def isFragmentChar (c : Char) : Bool :=
  0x20 < c.toNat && c.toNat < 0x7F && !(c = '"' || c = '<' || c = '>' || c = '\x60')

def percentOctet (b : UInt8) : Text :=
  ['%', Text.upperHexDigit (b.toNat / 16), Text.upperHexDigit b.toNat]

def percentEncode (keep : Char → Bool) (s : Text) : Text :=
  s.flatMap fun c => if keep c then [c] else (Utf8.encodeChar c).flatMap percentOctet

/-- The octets of a percent-encoded text. A percent sign without two digits stands for itself. -/
def percentOctets : Text → Octets
  | [] => []
  | [c] => Utf8.encodeChar c
  | [c, d] => Utf8.encodeChar c ++ Utf8.encodeChar d
  | c :: a :: b :: rest =>
    if c = '%' then
      match Text.hexValue? a, Text.hexValue? b with
      | some high, some low => .ofNat (16 * high + low) :: percentOctets rest
      | _, _ => Utf8.encodeChar c ++ percentOctets (a :: b :: rest)
    else Utf8.encodeChar c ++ percentOctets (a :: b :: rest)

def percentDecode (s : Text) : Text := Utf8.decode (percentOctets s)

end RemoteShell.Url
