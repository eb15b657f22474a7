import RemoteShell.Proofs.Connection
import RemoteShell.Proofs.Session.Reached
import RemoteShell.Proofs.Url.Typed

set_option autoImplicit false

namespace RemoteShell

namespace FileCommand

def name : FileCommand → Text
  | .pwd => "pwd".toList
  | .cd => "cd".toList
  | .ls => "ls".toList
  | .stat => "stat".toList
  | .openFile => "open".toList
  | .read => "read".toList
  | .cat => "cat".toList
  | .write => "write".toList
  | .rm => "rm".toList

theorem name_eq_of_mem {d : Descriptor (Handler FileCommand)} (hd : d ∈ registry.descriptors)
    {c : FileCommand} (hc : d.handler = .action c) : d.name = c.name := by
  have hall : ∀ d ∈ registry.descriptors, ∀ c, d.handler = .action c → d.name = c.name := by
    simp only [registry, descriptors, Registry.helpDescriptor, descriptor, List.cons_append,
      List.nil_append, List.forall_mem_cons, Handler.action.injEq, forall_eq', name]
    simp
  exact hall d hd c hc

theorem route_registry {command : Command} {d : Descriptor (Handler FileCommand)}
    {arguments : Arguments} (h : registry.route command = .ok (d, arguments)) :
    (d ∈ registry.descriptors ∧ d.name = command.name) ∨ d.handler = .help := by
  unfold Registry.route at h
  split at h
  · next d' hd =>
    obtain ⟨a, -, ha⟩ := Outcome.exists_ok_of_map h
    cases ha
    exact .inl ⟨List.mem_of_find?_eq_some hd, by simpa using List.find?_some hd⟩
  · have hf : registry.fallback? = .ok Registry.helpDescriptor := rfl
    rw [hf] at h
    obtain ⟨a, -, ha⟩ := Outcome.exists_ok_of_map h
    cases ha
    exact .inr rfl

theorem exists_command {line : Text} {step : Registry.Step FileCommand}
    (h : registry.dispatchLine line = .ok step) :
    ∃ command, Command.ofLine line = .ok command ∧
      ∀ word c arguments, step = .act word c arguments → command.name = c.name := by
  unfold Registry.dispatchLine at h
  split at h
  · next command hcommand =>
    refine ⟨command, hcommand, ?_⟩
    rintro word c arguments rfl
    obtain ⟨⟨d, a⟩, hroute, hstep⟩ := Outcome.exists_ok_of_map h
    cases hd : d.handler with
    | help => simp [hd] at hstep
    | action c' =>
      simp only [hd, Registry.Step.act.injEq] at hstep
      obtain ⟨hmem, hname⟩ := (route_registry hroute).resolve_right (by simp [hd])
      rw [← hname, name_eq_of_mem hmem hd, hstep.2.1]
  · cases h

theorem report_error {c : FileCommand} {workPath : Text} {a : Arguments} {call : Call}
    {report : Response → Except Fault Text} (hplan : c.plan workPath a = .ask call report)
    {r : Response} {fault : Fault} (h : report r = .error fault) :
    fault.IsNamed ∧ call.method ∈ [Method.list, Method.info] := by
  cases c with
  | pwd | cd => cases hplan
  | ls => cases hplan; exact ⟨Response.isNamed_entries (Outcome.error_of_map h), by simp [Call.method]⟩
  | stat => cases hplan; exact ⟨Response.isNamed_json (Outcome.error_of_map h), by simp [Call.method]⟩
  | openFile | read | cat | write | rm => cases hplan; cases h

theorem method_plan {c : FileCommand} {workPath : Text} {a : Arguments} {call : Call}
    {report : Response → Except Fault Text} (hplan : c.plan workPath a = .ask call report) :
    (call.method = .put → c = .write) ∧ (call.method = .delete → c = .rm) ∧
      (call.method = .openFile → c = .openFile) := by
  cases c <;> cases hplan <;> simp [Call.method]

end FileCommand

namespace Session

/-- What a command may have done to a session by the time of its outcome: a fault leaves all but
the note of a request as it was, and the rest goes by the command. -/
structure Effect (c : FileCommand) (before after : Session) (outcome : Except Fault Text) : Prop where
  base : after.connection.base = before.connection.base
  script : after.connection.script ⊆ before.connection.script
  sent : ∃ requests, requests.length ≤ 1 ∧
    after.connection.sent = before.connection.sent ++ requests
  failed : ∀ fault, outcome = .error fault → fault.IsNamed ∧ after.workPath = before.workPath ∧
    (Url.IsScheme before.connection.base.scheme →
      after.connection.server = before.connection.server)
  moved : after.workPath ≠ before.workPath → c = .cd
  stored : after.connection.server.files ≠ before.connection.server.files → c = .write ∨ c = .rm
  single : ∃ p, ∀ q : Text, q ≠ p → Assoc.get? q after.connection.server.files =
    Assoc.get? q before.connection.server.files
  opened : after.connection.server.opened ≠ before.connection.server.opened → c = .openFile

variable {s : Session}

/-- A command that gets its outcome without the remote. -/
theorem Effect.local (c : FileCommand) (s : Session) (markup : Text) :
    Effect c s s (.ok markup) where
  base := rfl
  script := List.Subset.refl _
  sent := ⟨[], Nat.zero_le 1, (List.append_nil _).symm⟩
  failed _ h := nomatch h
  moved h := absurd rfl h
  stored h := absurd rfl h
  single := ⟨[], fun _ _ => rfl⟩
  opened h := absurd rfl h

/-- A command with one request, from what the request did to the server. -/
theorem Effect.asked {c : FileCommand} {r : Request} {server : Server}
    {outcome : Except Fault Text}
    (failed : ∀ fault, outcome = .error fault → fault.IsNamed ∧
      (Url.IsScheme s.connection.base.scheme → server = s.connection.server))
    (stored : server.files ≠ s.connection.server.files → c = .write ∨ c = .rm)
    (single : ∃ p, ∀ q : Text, q ≠ p → Assoc.get? q server.files =
      Assoc.get? q s.connection.server.files)
    (opened : server.opened ≠ s.connection.server.opened → c = .openFile) :
    Effect c s { s with connection := s.connection.after r server } outcome where
  base := rfl
  script := List.drop_subset 1 _
  sent := ⟨[r], Nat.le_refl 1, rfl⟩
  failed fault h := ⟨(failed fault h).1, rfl, (failed fault h).2⟩
  moved h := absurd rfl h
  stored := stored
  single := single
  opened := opened

theorem perform_ask (hscript : ∀ x ∈ s.connection.script, x.IsReply) {c : FileCommand}
    {a : Arguments} {call : Call} {report : Response → Except Fault Text}
    (hplan : c.plan s.workPath a = .ask call report) :
    ∃ s' outcome, s.perform (c.plan s.workPath a) = (s', some outcome) ∧
      Effect c s s' outcome := by
  rw [hplan]
  unfold perform
  dsimp only
  rcases Connection.ask_cases hscript call with
    ⟨fault, hnamed, hask⟩ | ⟨r, hr, ⟨reply, hreply, hask⟩ | hask⟩
  · rw [hask]
    refine ⟨s, _, rfl, { Effect.local c s [] with failed := ?_ }⟩
    intro fault' h
    cases h
    exact ⟨hnamed, rfl, fun _ => rfl⟩
  · rw [hask]
    refine ⟨_, _, rfl, .asked ?_ (absurd rfl) ⟨[], fun _ _ => rfl⟩ (absurd rfl)⟩
    intro fault h
    refine ⟨?_, fun _ => rfl⟩
    rcases Outcome.error_of_bind h with h | ⟨response, -, h⟩
    · exact Connection.isNamed_outcome hreply h
    · exact (FileCommand.report_error hplan h).1
  · rw [hask]
    have hmethod : r.method = call.method := Call.method_of_request hr
    obtain ⟨hput, hdelete, hopen⟩ := FileCommand.method_plan hplan
    rw [← hmethod] at hput hdelete hopen
    refine ⟨_, _, rfl, .asked ?_ ?_ ⟨r.url.seenPath, fun q hq => ?_⟩ ?_⟩
    · -- Either the answer itself was a failure, or its report is of a kind that changes nothing.
      intro fault h
      rcases Outcome.error_of_bind h with h | ⟨response, -, h⟩
      · have hreply : Scripted.IsReply (.reply (.answered (s.connection.server.answer r).2)) :=
          trivial
        refine ⟨Connection.isNamed_outcome hreply h, fun hscheme => ?_⟩
        have ht := Call.isTyped_of_request hr hscheme
        exact Server.handle_of_refused (Connection.not_succeeded_of_outcome ht h)
      · obtain ⟨hnamed, hreads⟩ := FileCommand.report_error hplan h
        exact ⟨hnamed, fun _ => Server.handle_of_reads (hmethod ▸ hreads)⟩
    · intro hne
      by_cases hp : r.method = .put
      · exact .inl (hput hp)
      · by_cases hd : r.method = .delete
        · exact .inr (hdelete hd)
        · exact absurd (Server.files_handle hp hd) hne
    · exact Server.get?_files_handle hq
    · intro hne
      by_cases ho : r.method = .openFile
      · exact hopen ho
      · exact absurd (Server.opened_handle ho) hne

/-- Over replies that do come, every command comes to an outcome. -/
theorem perform_effect (hscript : ∀ x ∈ s.connection.script, x.IsReply) (c : FileCommand)
    (a : Arguments) : ∃ s' outcome, s.perform (c.plan s.workPath a) = (s', some outcome) ∧
      Effect c s s' outcome := by
  cases c with
  | pwd => exact ⟨s, _, rfl, .local .pwd s _⟩
  | cd =>
    refine ⟨_, _, rfl, { Effect.local .cd s [] with moved := fun _ => rfl, failed := ?_ }⟩
    exact fun _ h => nomatch h
  | ls | stat | openFile | read | cat | write | rm => exact perform_ask hscript rfl

end Session

end RemoteShell
