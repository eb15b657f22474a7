import RemoteShell.Remote
import RemoteShell.Server
import RemoteShell.Proofs.Assoc
import RemoteShell.Proofs.Text.Utf8

set_option autoImplicit false

namespace RemoteShell

theorem Response.text_ofText (status : Nat) (t : Text) : (Response.ofText status t).text = t :=
  Utf8.decode_encode t

namespace Server

variable {s : Server} {p stored : Text}

def onStored : List Method := [.openFile, .get, .delete]

theorem handle_of_missing {method : Method} (hm : method ∈ onStored)
    (h : Assoc.get? p s.files = none) (body : Text) :
    s.handle method p body = (s, notFound p) := by
  cases method with
  | list | info | put => exact absurd hm (by decide)
  | openFile | get | delete => simp [handle, Assoc.has, h]

theorem exists_stored {method : Method} (hm : method ∈ onStored) {path body markup : Text}
    {report : Response → Except Fault Text}
    (h : (Reply.accept path (.answered (s.handle method p body).2)).bind report = .ok markup) :
    ∃ stored, Assoc.get? p s.files = some stored := by
  refine Option.ne_none_iff_exists'.mp fun hmissing => ?_
  rw [handle_of_missing hm hmissing] at h
  cases h

theorem handle_openFile (h : Assoc.get? p s.files = some stored) (body : Text) :
    s.handle .openFile p body = ({ s with opened := s.opened ++ [p] }, .ofText 204 []) := by
  simp [handle, Assoc.has, h]

theorem handle_get (h : Assoc.get? p s.files = some stored) (body : Text) :
    s.handle .get p body = (s, .ofText 200 stored) := by
  simp [handle, h]

theorem handle_delete (h : Assoc.get? p s.files = some stored) (body : Text) :
    s.handle .delete p body = ({ s with files := Assoc.erase p s.files }, .ofText 204 []) := by
  simp [handle, Assoc.has, h]

end Server

end RemoteShell
