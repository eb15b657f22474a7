import RemoteShell.Text.Quoted

set_option autoImplicit false

namespace RemoteShell.Url

inductive Fault where
  | control (c : Char) (index : Nat)
  | address (host : Text)
  | longAddress (host : Text)
  | domain (host : Text)
  | port (written : Text)
  | relativeSlashes
  | relativeColon
  | absolutePath
  deriving DecidableEq, Repr

def Fault.message : Fault → Text
  | .control c index =>
    "Invalid non-printable ASCII character in URL, ".toList ++ Text.quoted [c] ++
      " at position ".toList ++ Text.ofNat index ++ ['.']
  | .address host => "Invalid IPv4 address: ".toList ++ Text.quoted host
  | .longAddress host => "Invalid IPv6 address: ".toList ++ Text.quoted host
  | .domain host => "Invalid IDNA hostname: ".toList ++ Text.quoted host
  | .port written => "Invalid port: ".toList ++ Text.quoted written
  | .relativeSlashes => "Relative URLs cannot have a path starting with '//'".toList
  | .relativeColon => "Relative URLs cannot have a path starting with ':'".toList
  | .absolutePath => "For absolute URLs, path must be empty or begin with '/'".toList

end RemoteShell.Url
