import RemoteShell.Connection
import RemoteShell.Proofs.Fault
import RemoteShell.Proofs.Server
import RemoteShell.Proofs.Url.Target

set_option autoImplicit false

namespace RemoteShell

namespace Server

variable {s : Server} {method : Method} {p body : Text}

theorem handle_of_reads (h : method ∈ [Method.list, Method.info]) :
    (s.handle method p body).1 = s := by
  cases method with
  | list | info =>
    simp only [handle]
    split <;> rfl
  | openFile | get | put | delete => exact absurd h (by decide)

theorem handle_of_refused (h : (s.handle method p body).2.succeeded = false) :
    (s.handle method p body).1 = s := by
  cases method with
  | put => cases h
  | list | info => exact handle_of_reads (by decide)
  | get =>
    simp only [handle]
    split <;> rfl
  | openFile | delete =>
    simp only [handle] at h ⊢
    split at h
    · cases h
    · next hp => rw [if_neg hp]

theorem files_handle (hp : method ≠ .put) (hd : method ≠ .delete) :
    (s.handle method p body).1.files = s.files := by
  cases method with
  | put => exact absurd rfl hp
  | delete => exact absurd rfl hd
  | list | info | get | openFile =>
    simp only [handle]
    split <;> rfl

theorem get?_files_handle {q : Text} (h : q ≠ p) :
    Assoc.get? q (s.handle method p body).1.files = Assoc.get? q s.files := by
  cases method with
  | put => simp only [handle, Assoc.get?_put, if_neg (Ne.symm h)]
  | delete =>
    simp only [handle]
    split
    · exact (Assoc.get?_erase p q s.files).trans (if_neg h)
    · rfl
  | list | info | get | openFile => rw [files_handle (by decide) (by decide)]

theorem opened_handle (h : method ≠ .openFile) : (s.handle method p body).1.opened = s.opened := by
  cases method with
  | openFile => exact absurd rfl h
  | put => rfl
  | list | info | get | delete =>
    simp only [handle]
    split <;> rfl

end Server

theorem Call.method_of_request {call : Call} {base : Base} {r : Request}
    (h : call.request base = .ok r) : r.method = call.method := by
  obtain ⟨url, -, -, rfl⟩ := Call.request_eq_ok_iff.mp h
  rfl

theorem Call.isNamed_of_request {call : Call} {base : Base} {fault : Fault}
    (h : call.request base = .error fault) : fault.IsNamed := by
  unfold Call.request at h
  split at h
  · cases h; trivial
  · split at h
    · cases h
      exact List.cons_ne_nil _ _
    · cases h

/-- An answer, or a failure of some kind. Nobody breaks off the wait for it. -/
def Scripted.IsReply : Scripted → Prop
  | .server | .reply (.answered _) => True
  | .reply (.failed kind _) => kind ≠ []
  | .interrupt => False

namespace Connection

variable {c : Connection} {call : Call}

/-- The connection after one more request, with the server as it is then. -/
def after (c : Connection) (r : Request) (server : Server) : Connection :=
  { c with server := server, script := c.script.drop 1, sent := c.sent ++ [r] }

/-- A call is refused before anything is sent, or it is answered from the script, or by the
server. -/
theorem ask_cases (hscript : ∀ x ∈ c.script, x.IsReply) (call : Call) :
    (∃ fault, fault.IsNamed ∧ c.ask call = (c, some (.error fault))) ∨
      ∃ r, call.request c.base = .ok r ∧
        ((∃ reply, Scripted.IsReply (.reply reply) ∧
            c.ask call = (c.after r c.server, some (outcome call.path r reply))) ∨
          c.ask call = (c.after r (c.server.answer r).1,
            some (outcome call.path r (.answered (c.server.answer r).2)))) := by
  unfold ask
  split
  · next fault hr => exact .inl ⟨fault, Call.isNamed_of_request hr, rfl⟩
  · next r hr =>
    refine .inr ⟨r, hr, ?_⟩
    unfold exchange
    cases hs : c.script with
    | nil => exact .inr (by simp [after, answered, hs])
    | cons x rest =>
      have hx := hscript x (hs ▸ List.mem_cons_self)
      cases x with
      | server => exact .inr (by simp [after, answered, hs])
      | reply reply => exact .inl ⟨reply, hx, by simp [after, hs]⟩
      | interrupt => exact hx.elim

theorem isNamed_outcome {path : Text} {r : Request} {reply : Reply} {fault : Fault}
    (h : Scripted.IsReply (.reply reply)) (hf : outcome path r reply = .error fault) :
    fault.IsNamed := by
  cases reply with
  | answered response =>
    simp only [outcome, Reply.accept] at hf
    split at hf
    · split at hf
      · cases hf
      · cases hf; trivial
    · cases hf; trivial
  | failed kind message => cases hf; exact h

/-- A response that is not accepted is no success, if its URL names a scheme. -/
theorem not_succeeded_of_outcome {path : Text} {r : Request} {response : Response} {fault : Fault}
    (ht : r.url.isTyped = true) (hf : outcome path r (.answered response) = .error fault) :
    response.succeeded = false := by
  simp only [outcome, ht, if_true, Reply.accept] at hf
  split at hf
  · cases hf
  · next h => simpa using h

end Connection

end RemoteShell
