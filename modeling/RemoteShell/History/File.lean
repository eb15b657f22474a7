import RemoteShell.Disk
import RemoteShell.History
import RemoteShell.Json.Stored
import RemoteShell.Json.Write

set_option autoImplicit false

namespace RemoteShell.History

def key : Text := "history".toList

def document (entries : List Text) : Value :=
  .map [(key, .list (entries.map Value.ofText))]

def fileText (entries : List Text) : Text := Json.pretty 0 (document entries)

/-- The texts among the members of a value. An entry has characters only, so that a half is replaced
here. -/
def texts (v : Value) : Except Fault (List Text) :=
  match v.members? with
  | some members =>
    .ok (members.filterMap fun m =>
      match m with
      | .text s => some s.toText
      | _ => none)
  | none => .error (.noMembers v.kind)

def parse (content : Octets) : Except Fault (List Text) :=
  match Json.object? content with
  | .error fault => .error fault
  | .ok none => .ok []
  | .ok (some fields) => texts ((Assoc.get? key fields).getD (.list []))

def cleared (h : History) : History := empty h.maxEntries

/-- The history of a file, or no entries without one. Entries beyond the limit are dropped, which
counts as a change. -/
def load (h : History) (file : Option Location) (d : Disk) : History × Option Fault :=
  match file.map fun l => (l, d.read l) with
  | none => (h.cleared, none)
  | some (l, .error .longName) => (h.cleared, some (.longName l.text))
  | some (_, .error _) => (h.cleared, none)
  | some (_, .ok content) =>
    match parse content with
    | .error fault => (h.cleared, some fault)
    | .ok entries =>
      let kept := keep h.maxEntries entries
      ({ h.cleared with entries := kept, isDirty := kept.length < entries.length }, none)

/-- Saving the entries if they changed. They stay changed if they cannot be written. -/
def save (h : History) (file : Option Location) (d : Disk) : History × Disk :=
  match file with
  | none => (h, d)
  | some l =>
    if h.isDirty then
      let (d, isWritten) := d.write l (Utf8.encode (fileText h.entries))
      ({ h with isDirty := !isWritten }, d)
    else (h, d)

end RemoteShell.History
