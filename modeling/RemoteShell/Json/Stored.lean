import RemoteShell.Fault

/-! JSON objects kept in files. A content that is no object counts as none; only octets that are no
UTF-8, and integers that are too long, are faults. -/

set_option autoImplicit false

namespace RemoteShell.Json

def object? (content : Octets) : Except RemoteShell.Fault (Option Value.Fields) :=
  match Utf8.strict content with
  | .error fault => .error (.undecodable fault)
  | .ok text =>
    match read text with
    | .ok (.map fields) => .ok (some fields)
    | .ok _ => .ok none
    | .error (.malformed ..) => .ok none
    | .error (.longInteger digits) => .error (.badJson (.longInteger digits))

end RemoteShell.Json
