import RemoteShell.Url.Form

set_option autoImplicit false

namespace RemoteShell

inductive Method where
  | list
  | info
  | openFile
  | get
  | put
  | delete
  deriving DecidableEq, Repr

def Method.name : Method → Text
  | .list => "LIST".toList
  | .info => "INFO".toList
  | .openFile => "OPEN".toList
  | .get => "GET".toList
  | .put => "PUT".toList
  | .delete => "DELETE".toList

structure Request where
  method : Method
  url : Url
  body : Text
  deriving DecidableEq

structure Response where
  status : Nat
  body : Octets
  deriving DecidableEq, Repr

def Response.ofText (status : Nat) (body : Text) : Response := ⟨status, Utf8.encode body⟩

def Response.succeeded (r : Response) : Bool := 200 ≤ r.status && r.status < 300

def Response.text (r : Response) : Text := Utf8.decode r.body

/-- What comes back for a request: a response, or a failure on the way with its kind. -/
inductive Reply where
  | answered (response : Response)
  | failed (kind message : Text)

end RemoteShell
