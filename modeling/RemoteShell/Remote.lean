import RemoteShell.Command.Written
import RemoteShell.Fault
import RemoteShell.Http
import RemoteShell.Json.Octets
import RemoteShell.Value.Display

set_option autoImplicit false

namespace RemoteShell

inductive Call where
  | list (path : Text)
  | info (path : Text)
  | openFile (path : Text) (options : Assoc Value)
  | read (path : Text) (options : Assoc Value)
  | write (path content : Text) (options : Assoc Value)
  | delete (path : Text) (options : Assoc Value)

namespace Call

def method : Call → Method
  | .list _ => .list
  | .info _ => .info
  | .openFile .. => .openFile
  | .read .. => .get
  | .write .. => .put
  | .delete .. => .delete

def path : Call → Text
  | .list path | .info path | .openFile path _ | .read path _ | .write path _ _ | .delete path _ =>
    path

def options : Call → Assoc Value
  | .list _ | .info _ => []
  | .openFile _ options | .read _ options | .write _ _ options | .delete _ options => options

def content : Call → Text
  | .write _ content _ => content
  | _ => []

end Call

structure Entry where
  path : Text
  type : Text
  isOpen : Bool
  deriving DecidableEq, Repr

namespace Remote

def queryPairs (options : Assoc Value) : Assoc Text :=
  options.map fun o => (o.1, Command.renderValue o.2)

def query? (options : Assoc Value) : Option Text :=
  if options.isEmpty then none else some (Url.Form.encode (queryPairs options))

/-- Why options cannot be encoded: the first of them that is a text with a half. In what is written
as JSON a half is escaped. -/
def encodingProblem? (options : Assoc Value) : Option Text :=
  options.findSome? fun o =>
    match o.2 with
    | .text s => s.encodingProblem?
    | _ => none

end Remote

/-- The request of a call. The URL of its path is put together before the options are encoded. -/
def Call.request (c : Call) (base : Base) : Except Fault Request :=
  match base.url c.path (Remote.query? c.options) with
  | .error fault => .error (.badUrl fault)
  | .ok url =>
    match Remote.encodingProblem? c.options with
    | some problem => .error (.raised "UnicodeEncodeError".toList problem)
    | none => .ok ⟨c.method, url, c.content⟩

theorem Call.request_eq_ok_iff {c : Call} {base : Base} {r : Request} :
    c.request base = .ok r ↔ ∃ url, base.url c.path (Remote.query? c.options) = .ok url ∧
      Remote.encodingProblem? c.options = none ∧ r = ⟨c.method, url, c.content⟩ := by
  unfold request
  constructor
  · intro h
    split at h
    · cases h
    · next url hurl =>
      split at h
      · cases h
      · next hnone =>
        cases h
        exact ⟨url, hurl, hnone, rfl⟩
  · rintro ⟨url, hurl, hnone, rfl⟩
    simp only [hurl, hnone]

namespace Reply

def accept (path : Text) : Reply → Except Fault Response
  | .answered r => if r.succeeded then .ok r else .error (.refused r.status r.text (some path))
  | .failed kind message => .error (.unreachable kind message)

end Reply

namespace Response

def json (r : Response) : Except Fault Value :=
  match Json.decode r.body with
  | .error fault => .error (.undecodable fault)
  | .ok text => (Json.readBare text).mapError .badJson

end Response

namespace Entry

def ofFields (fields : Value.Fields) : Entry where
  path := (Assoc.get? "path".toList fields).elim [] Value.display
  type := (Assoc.get? "type".toList fields).elim "file".toList Value.display
  isOpen := (Assoc.get? "open".toList fields).elim false Value.truth

def ofValue : Value → Except Fault Entry
  | .map fields => .ok (ofFields fields)
  | v => .error (.noFields v.kind)

/-- The entries that a listing holds; every member has to be one. -/
def ofListing (v : Value) : Except Fault (List Entry) :=
  match v.members? with
  | some members => members.mapM ofValue
  | none => .error (.noMembers v.kind)

end Entry

def Response.entries (r : Response) : Except Fault (List Entry) := r.json.bind Entry.ofListing

end RemoteShell
