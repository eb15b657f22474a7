import RemoteShell.Json.Fault
import RemoteShell.Url
import RemoteShell.Text.Quoted

set_option autoImplicit false

namespace RemoteShell

inductive Misuse where
  | missing (arguments : List Text)
  | tooMany (most given : Nat)
  deriving DecidableEq, Repr

def Misuse.message : Misuse → Text
  | .missing arguments => "missing ".toList ++ Text.glue [',', ' '] arguments
  | .tooMany most given =>
    "expected at most ".toList ++ Text.ofNat most ++ " argument(s), got ".toList ++ Text.ofNat given

inductive Fault where
  | openQuote (fragment : Text)
  | misuse (command : Text) (why : Misuse) (usage : Text)
  | refused (status : Nat) (reason : Text) (path : Option Text)
  | badUrl (fault : Url.Fault)
  /-- A URL that names no scheme cannot be dealt with once there is a response. -/
  | untypedUrl (url : Text)
  /-- The request got no response. -/
  | unreachable (kind message : Text)
  | badJson (fault : Json.Fault)
  | undecodable (fault : Encoding.Fault)
  | longName (path : Text)
  | noMembers (kind : Text)
  | noFields (kind : Text)
  | noFallback (name : Text)
  | raised (kind message : Text)

namespace Fault

def message : Fault → Text
  | .openQuote fragment => "String was not quoted properly: ".toList ++ fragment
  | .misuse command why usage =>
    command ++ ": ".toList ++ why.message ++ ". Usage: ".toList ++ usage
  | .refused status reason _ =>
    if reason.isEmpty then "Remote operation failed with status ".toList ++ Text.ofNat status
    else reason
  | .badUrl fault => fault.message
  | .untypedUrl url => "unknown url type: ".toList ++ Text.quoted url
  | .unreachable _ message => message
  | .badJson fault => fault.message
  | .undecodable fault => fault.message
  | .longName path => "[Errno 36] File name too long: ".toList ++ Text.quoted path
  | .noMembers kind => Text.quoted kind ++ " object is not iterable".toList
  | .noFields kind => Text.quoted kind ++ " object has no attribute 'get'".toList
  | .noFallback name => Text.quoted name
  | .raised _ message => message

/-- The message, or the kind where a cause has one and no message. -/
def shown : Fault → Text
  | .unreachable kind message | .raised kind message => if message.isEmpty then kind else message
  | f => f.message

end Fault

end RemoteShell
