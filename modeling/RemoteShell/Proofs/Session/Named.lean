import RemoteShell.Proofs.Server
import RemoteShell.Proofs.Session.Reached

set_option autoImplicit false

namespace RemoteShell

namespace FileCommand

/-- What a successful answer of a command says about the file it names, and about no other. -/
def Promise (t text : Text) (before after : Server) (markup : Text) : FileCommand → Prop
  | .write => markup = title "Wrote" t ∧
    ∀ p, Assoc.get? p after.files = if p = t then some text else Assoc.get? p before.files
  | .rm => markup = title "Deleted" t ∧
    ∀ p, Assoc.get? p after.files = if p = t then none else Assoc.get? p before.files
  | .read | .cat => ∃ stored, Assoc.get? t before.files = some stored ∧ markup = content t stored
  | .openFile => markup = title "Opened" t ∧ after.opened = before.opened ++ [t]
  | .pwd | .cd | .ls | .stat => True

def onFiles : List FileCommand := [.openFile, .read, .cat, .write, .rm]

def sentOptions (a : Arguments) : FileCommand → Assoc Value
  | .openFile | .read | .write | .rm => a.options
  | .pwd | .cd | .ls | .stat | .cat => []

theorem exists_call {c : FileCommand} (h : c ∈ onFiles) (workPath : Text) (a : Arguments) :
    ∃ call report, c.plan workPath a = .ask call report ∧ call.path = target workPath a ∧
      call.options = c.sentOptions a := by
  cases c with
  | pwd | cd | ls | stat => exact absurd h (by decide)
  | openFile | read | cat | write | rm => exact ⟨_, _, rfl, rfl, rfl⟩

theorem promise_of_not_mem {c : FileCommand} (h : c ∉ onFiles) (t text : Text)
    (before after : Server) (markup : Text) : c.Promise t text before after markup := by
  cases c with
  | pwd | cd | ls | stat => trivial
  | openFile | read | cat | write | rm => exact absurd (by decide) h

end FileCommand

namespace Session

open FileCommand

/-- What the successful answers to a line say here is true. -/
def Truthful (s : Session) (line : Text) : Prop :=
  ∀ name c arguments sequence s' markup,
    FileCommand.registry.dispatchLine line = .ok (.act name c arguments) →
      s.execute line sequence = (s', some ⟨markup, false, sequence, line⟩) →
        c.Promise (target s.workPath arguments) (arguments.word contentName [])
          s.connection.server s'.connection.server markup

variable {s : Session} {line name : Text} {c : FileCommand} {arguments : Arguments}

theorem execute_of_ask {call : Call} {report : Response → Except Fault Text}
    (hline : FileCommand.registry.dispatchLine line = .ok (.act name c arguments))
    (hplan : c.plan s.workPath arguments = .ask call report) (sequence : Int) :
    s.execute line sequence =
      ({ s with connection := (s.connection.ask call).1 },
        ((s.connection.ask call).2.map fun r => r.bind report).map (.of line sequence)) := by
  rw [execute_of_act hline, hplan]
  rfl

theorem of_eq_ok_iff {sequence : Int} {outcome : Except Fault Text} {markup : Text} :
    Result.of line sequence outcome = ⟨markup, false, sequence, line⟩ ↔ outcome = .ok markup := by
  cases outcome <;> simp [Result.of]

theorem truthful_iff_of_ask (h : s.IsSound) {call : Call} {report : Response → Except Fault Text}
    (hline : FileCommand.registry.dispatchLine line = .ok (.act name c arguments))
    (hplan : c.plan s.workPath arguments = .ask call report)
    (hpath : Path.IsCanonical call.path) (hc : ∀ d ∈ call.path, Url.isControl d = false)
    (hoptions : Remote.encodingProblem? call.options = none) :
    s.Truthful line ↔
      ∀ markup, (Reply.accept call.path (.answered (s.connection.server.handle call.method
          (Url.seen call.path) call.content).2)).bind report = .ok markup →
        c.Promise (target s.workPath arguments) (arguments.word contentName [])
          s.connection.server
          (s.connection.server.handle call.method (Url.seen call.path) call.content).1 markup := by
  obtain ⟨hserver, hreply⟩ := Connection.ask_inMemory h.connection hpath hc hoptions
  have hexecute := execute_of_ask hline hplan
  rw [hreply] at hexecute
  rw [← hserver]
  constructor
  · intro htrue markup hreport
    refine htrue name c arguments 0 { s with connection := _ } markup hline ?_
    rw [hexecute, Option.map_some, hreport]
    rfl
  · intro htrue name' c' arguments' sequence s' markup hline' hs'
    rw [hline] at hline'
    cases hline'
    rw [hexecute, Option.map_some, Option.map_some, Prod.mk.injEq, Option.some.injEq,
      of_eq_ok_iff] at hs'
    obtain ⟨rfl, hreport⟩ := hs'
    exact htrue markup hreport

theorem truthful_of_refused {call : Call} {report : Response → Except Fault Text}
    (hline : FileCommand.registry.dispatchLine line = .ok (.act name c arguments))
    (hplan : c.plan s.workPath arguments = .ask call report)
    (hask : ∃ fault, s.connection.ask call = (s.connection, some (.error fault))) :
    s.Truthful line := by
  obtain ⟨fault, hask⟩ := hask
  intro name' c' arguments' sequence s' markup _ hs'
  rw [execute_of_ask hline hplan, hask] at hs'
  simp [Except.bind, Result.of] at hs'

theorem truthful_of_seen (h : s.IsSound)
    (hline : FileCommand.registry.dispatchLine line = .ok (.act name c arguments))
    (hfiles : c ∈ onFiles) (hc : ∀ d ∈ target s.workPath arguments, Url.isControl d = false)
    (hoptions : Remote.encodingProblem? (c.sentOptions arguments) = none)
    (hseen : Url.seen (target s.workPath arguments) = target s.workPath arguments) :
    s.Truthful line := by
  have hcanonical : Path.IsCanonical (target s.workPath arguments) :=
    h.directory.isCanonical.resolve _
  cases c with
  | pwd | cd | ls | stat => exact absurd hfiles (by decide)
  | write =>
    refine (truthful_iff_of_ask h hline rfl hcanonical hc hoptions).mpr fun markup hm => ?_
    cases hm
    refine ⟨rfl, fun p => ?_⟩
    simp only [Call.path, Call.method, Call.content, Server.handle, hseen, Assoc.get?_put, eq_comm]
  | rm =>
    refine (truthful_iff_of_ask h hline rfl hcanonical hc hoptions).mpr fun markup hm => ?_
    simp only [Call.path, Call.method, hseen] at hm ⊢
    obtain ⟨stored, hstored⟩ := Server.exists_stored (by decide) hm
    rw [Server.handle_delete hstored] at hm ⊢
    cases hm
    exact ⟨rfl, fun p => Assoc.get?_erase _ p _⟩
  | openFile =>
    refine (truthful_iff_of_ask h hline rfl hcanonical hc hoptions).mpr fun markup hm => ?_
    simp only [Call.path, Call.method, hseen] at hm ⊢
    obtain ⟨stored, hstored⟩ := Server.exists_stored (by decide) hm
    rw [Server.handle_openFile hstored] at hm ⊢
    cases hm
    exact ⟨rfl, rfl⟩
  | read | cat =>
    refine (truthful_iff_of_ask h hline rfl hcanonical hc hoptions).mpr fun markup hm => ?_
    simp only [Call.path, Call.method, hseen] at hm ⊢
    obtain ⟨stored, hstored⟩ := Server.exists_stored (by decide) hm
    rw [Server.handle_get hstored] at hm ⊢
    cases hm
    exact ⟨stored, hstored, congrArg _ (Response.text_ofText 200 stored)⟩

/-- The server sees another file, which is the only one that is there, and so the command works on
that one under the name of the first. -/
theorem not_truthful_of_seen (h : s.IsSound)
    (hline : FileCommand.registry.dispatchLine line = .ok (.act name c arguments))
    (hfiles : c ∈ onFiles) (hc : ∀ d ∈ target s.workPath arguments, Url.isControl d = false)
    (hoptions : Remote.encodingProblem? (c.sentOptions arguments) = none)
    (hseen : Url.seen (target s.workPath arguments) ≠ target s.workPath arguments)
    (hserver : s.connection.server = .ofFiles [(Url.seen (target s.workPath arguments), [])]) :
    ¬s.Truthful line := by
  have hcanonical : Path.IsCanonical (target s.workPath arguments) :=
    h.directory.isCanonical.resolve _
  have hthere : Assoc.get? (Url.seen (target s.workPath arguments)) s.connection.server.files =
      some [] := by
    rw [hserver]
    exact if_pos rfl
  have hmissing : Assoc.get? (target s.workPath arguments) s.connection.server.files = none := by
    rw [hserver]
    exact if_neg hseen
  -- Each command succeeds on the other file, and its answer does not fit the named one.
  intro htrue
  cases c with
  | pwd | cd | ls | stat => exact absurd hfiles (by decide)
  | write =>
    obtain ⟨-, hall⟩ := (truthful_iff_of_ask h hline rfl hcanonical hc hoptions).mp htrue _ rfl
    have hnamed := hall (target s.workPath arguments)
    simp only [Call.path, Call.method, Call.content, Server.handle, Assoc.get?_put, if_neg hseen,
      if_pos] at hnamed
    rw [hmissing] at hnamed
    cases hnamed
  | rm =>
    have hreport := (truthful_iff_of_ask h hline rfl hcanonical hc hoptions).mp htrue
    simp only [Call.path, Call.method, Server.handle_delete hthere] at hreport
    obtain ⟨-, hall⟩ := hreport _ rfl
    have hother := hall (Url.seen (target s.workPath arguments))
    rw [Assoc.get?_erase, if_pos rfl, if_neg hseen, hthere] at hother
    cases hother
  | openFile =>
    have hreport := (truthful_iff_of_ask h hline rfl hcanonical hc hoptions).mp htrue
    simp only [Call.path, Call.method, Server.handle_openFile hthere] at hreport
    obtain ⟨-, hopened⟩ := hreport _ rfl
    exact hseen (by simpa using hopened)
  | read | cat =>
    have hreport := (truthful_iff_of_ask h hline rfl hcanonical hc hoptions).mp htrue
    simp only [Call.path, Call.method, Server.handle_get hthere] at hreport
    obtain ⟨stored, hstored, -⟩ := hreport _ rfl
    rw [hmissing] at hstored
    cases hstored

/-- From the sessions at one working path, a command on a file is answered truthfully whatever the
server holds if and only if the named path means nothing else to a URL, or the path or an option
cannot be in one. -/
theorem Reached.truthful_iff (h : Reached s) (line : Text) :
    (∀ s', Reached s' → s'.workPath = s.workPath → s'.Truthful line) ↔
      ∀ name c arguments, FileCommand.registry.dispatchLine line = .ok (.act name c arguments) →
        c ∈ onFiles → Url.IsLiteral (target s.workPath arguments) ∨
          (∃ d ∈ target s.workPath arguments, Url.isControl d = true) ∨
            ¬∀ o ∈ c.sentOptions arguments, o.2.IsEncodable := by
  constructor
  · intro htrue name c arguments hline hfiles
    by_cases hc : ∃ d ∈ target s.workPath arguments, Url.isControl d = true
    · exact .inr (.inl hc)
    by_cases hoptions : ∀ o ∈ c.sentOptions arguments, o.2.IsEncodable
    case neg => exact .inr (.inr hoptions)
    have hclear : ∀ d ∈ target s.workPath arguments, Url.isControl d = false := by
      simpa using hc
    refine .inl ((Url.seen_eq_self_iff (h.isSound.directory.isCanonical.resolve _)).mp ?_)
    refine Classical.byContradiction fun hseen => ?_
    -- A session that begins at the same working path, with the other file on the server.
    generalize hfirst :
      Session.start .inMemory [(Url.seen (target s.workPath arguments), [])] s.workPath = first
    have hreached : Reached first := hfirst ▸ .start _ _
    have hpath : first.workPath = s.workPath := by
      rw [← hfirst]
      exact startPath_of_directory h.isSound.directory
    refine not_truthful_of_seen hreached.isSound hline hfiles ?_
      (Remote.encodingProblem?_eq_none_iff.mpr hoptions) ?_ ?_ (htrue _ hreached hpath)
    all_goals rw [hpath]
    · exact hclear
    · exact hseen
    · rw [← hfirst]
      rfl
  · intro hall s' hs' hpath name c arguments sequence s'' markup hline hs''
    by_cases hfiles : c ∈ onFiles
    · have hnamed := hall name c arguments hline hfiles
      rw [← hpath] at hnamed
      suffices htrue : s'.Truthful line from
        htrue name c arguments sequence s'' markup hline hs''
      obtain ⟨call, report, hplan, hcall, hsent⟩ := exists_call hfiles s'.workPath arguments
      by_cases hc : ∃ d ∈ target s'.workPath arguments, Url.isControl d = true
      · exact truthful_of_refused hline hplan
          (Connection.ask_of_control hs'.isSound.connection (hcall ▸ hc))
      cases hoptions : Remote.encodingProblem? (c.sentOptions arguments) with
      | some problem =>
        rw [← hsent] at hoptions
        exact truthful_of_refused hline hplan (Connection.ask_of_encodingProblem _ hoptions)
      | none =>
        have hcanonical := hs'.isSound.directory.isCanonical.resolve (arguments.word pathName [])
        have hencodable := Remote.encodingProblem?_eq_none_iff.mp hoptions
        have hliteral := (hnamed.resolve_right fun h => h.elim hc fun h => h hencodable)
        exact truthful_of_seen hs'.isSound hline hfiles (by simpa using hc) hoptions
          ((Url.seen_eq_self_iff hcanonical).mpr hliteral)
    · exact promise_of_not_mem hfiles _ _ _ _ _

theorem truthful_iff_percent :
    (Session.start .inMemory [] "/notes".toList).Truthful "write 100% x".toList := by
  have hreached := Reached.start [] "/notes".toList
  refine (Reached.truthful_iff hreached "write 100% x".toList).mpr ?_ _ hreached rfl
  intro name c arguments hline _
  have hdispatch : FileCommand.registry.dispatchLine "write 100% x".toList =
      .ok (.act "write".toList .write _) := rfl
  rw [hdispatch] at hline
  cases hline
  have htarget : Url.percentDecode "/notes/100%".toList = "/notes/100%".toList := by rfl
  exact .inl ⟨by decide, by decide, (Url.percentDecode_eq_self_iff _).mp htarget⟩

/-- A file is stored under another name than the one in the answer. -/
theorem not_truthful_escaped : ¬∀ s line, Reached s → s.Truthful line := by
  intro h
  have htrue := h (.start .inMemory [] []) "write /a%41 x".toList (.start [] [])
  obtain ⟨-, hall⟩ := htrue "write".toList .write _ 1 _ _ rfl rfl
  have hnamed := hall "/a%41".toList
  cases hnamed

end Session

end RemoteShell
