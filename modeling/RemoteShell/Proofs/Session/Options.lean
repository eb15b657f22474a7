import RemoteShell.Proofs.Json.Regular
import RemoteShell.Proofs.Command.Replay
import RemoteShell.Proofs.Registry
import RemoteShell.Proofs.Session.Opening
import RemoteShell.Proofs.Session.Stored
import RemoteShell.Proofs.Url.Form

set_option autoImplicit false

namespace RemoteShell

variable {line : Text} {command : Command}

namespace Command

theorem regular_decodeValue (t : Text) : (decodeValue t).Regular := by
  cases hv : Json.literal? t with
  | none =>
    rw [decodeValue, hv]
    exact Points.isApart_ofText t
  | some v =>
    rw [decodeValue, hv]
    exact Json.regular_literal? hv

theorem regular_of_mem_options (h : ofLine line = .ok command) {o : Text × Value}
    (ho : o ∈ command.options) : o.2.Regular := by
  obtain ⟨ts, -, rfl⟩ := Outcome.exists_ok_of_map h
  obtain ⟨-, hflag | ⟨t, -, -, hv⟩⟩ := exists_of_mem_entriesOf (Assoc.mem_ofPairs ho)
  · rw [hflag]
    trivial
  · rw [hv]
    exact regular_decodeValue t

theorem decodeValue_renderValue_of_mem (h : ofLine line = .ok command) {o : Text × Value}
    (ho : o ∈ command.options) (hreal : o.2.HasNoReal)
    (htext : ∀ t, o.2 = .text t → decodeValue t.toText = .text t) :
    decodeValue (renderValue o.2) = o.2 := by
  cases hv : o.2 with
  | text t => exact htext t hv
  | _ =>
    rw [← hv]
    exact decodeValue_renderValue ((regular_of_mem_options h ho).plain hreal) (by simp [hv])

end Command

theorem Remote.query?_eq_none_iff {options : Assoc Value} :
    query? options = none ↔ options = [] := by
  unfold query?
  split
  · next h => exact ⟨fun _ => List.isEmpty_iff.mp h, fun _ => rfl⟩
  · next h => exact ⟨nofun, fun hnil => absurd (hnil ▸ rfl) h⟩

theorem Remote.decode_query? (options : Assoc Value) :
    (query? options).elim [] Url.Form.decode = queryPairs options := by
  unfold query?
  split
  · next h => rw [List.isEmpty_iff.mp h]; rfl
  · exact Url.Form.decode_encode _

namespace FileCommand

/-- The commands that hand their options on, with the number of words that each takes. -/
def senders : List (FileCommand × Nat) := [(.openFile, 1), (.read, 1), (.write, 2), (.rm, 1)]

/-- The commands on one path that take options and leave them out. -/
def silent : List FileCommand := [.cat, .ls, .stat]

theorem dispatchLine_of_senders {c : FileCommand} {n : Nat} (hc : (c, n) ∈ senders)
    (hline : Command.ofLine line = .ok command) (hname : command.name = c.name)
    (hlength : command.positionals.length = n) :
    ∃ a, registry.dispatchLine line = .ok (.act c.name c a) ∧
      a.word pathName [] = command.positionals.headD [] ∧ a.options = command.options := by
  obtain ⟨name, positionals, options⟩ := command
  dsimp only at hname hlength
  subst hname
  rw [Registry.dispatchLine, hline]
  simp only [senders, List.mem_cons, Prod.mk.injEq, List.not_mem_nil, or_false] at hc
  rcases hc with ⟨rfl, rfl⟩ | ⟨rfl, rfl⟩ | ⟨rfl, rfl⟩ | ⟨rfl, rfl⟩
  case inr.inr.inl =>
    obtain ⟨p, q, rfl⟩ := List.length_eq_two.mp hlength
    exact ⟨_, rfl, rfl, rfl⟩
  all_goals
    obtain ⟨p, rfl⟩ := List.length_eq_one_iff.mp hlength
    exact ⟨_, rfl, rfl, rfl⟩

theorem exists_call_of_senders {c : FileCommand} {n : Nat} (hc : (c, n) ∈ senders) (workPath : Text)
    (a : Arguments) : ∃ call report, c.plan workPath a = .ask call report ∧
      call.path = target workPath a ∧ call.options = a.options := by
  simp only [senders, List.mem_cons, Prod.mk.injEq, List.not_mem_nil, or_false] at hc
  rcases hc with ⟨rfl, -⟩ | ⟨rfl, -⟩ | ⟨rfl, -⟩ | ⟨rfl, -⟩ <;> exact ⟨_, _, rfl, rfl, rfl⟩

theorem options_of_silent {c : FileCommand} (hc : c ∈ silent) {workPath : Text} {a : Arguments}
    {call : Call} {report : Response → Except Fault Text}
    (hplan : c.plan workPath a = .ask call report) : call.options = [] := by
  simp only [silent, List.mem_cons, List.not_mem_nil, or_false] at hc
  rcases hc with rfl | rfl | rfl <;> cases hplan <;> rfl

end FileCommand

namespace Session

open FileCommand

variable {c : FileCommand} {n : Nat}

theorem exists_plan_of_asks {s : Session} {call : Call} {r : Request}
    {report : Response → Except Fault Text} (h : (s.begin line).2 = .asks call r report) :
    ∃ name c a, registry.dispatchLine line = .ok (.act name c a) ∧
      c.plan s.workPath a = .ask call report ∧ call.request s.connection.base = .ok r := by
  unfold begin plan at h
  rcases hstep : registry.dispatchLine line with fault | ⟨markup⟩ | ⟨name, c, a⟩ <;>
    rw [hstep] at h
  · cases h
  · cases h
  · rcases hplan : c.plan s.workPath a with ⟨markup⟩ | ⟨workPath, markup⟩ | ⟨call', report'⟩ <;>
      simp only [Outcome.map_ok, hplan] at h
    · cases h
    · cases h
    · cases hr : call'.request s.connection.base with
      | error fault => rw [hr] at h; cases h
      | ok request =>
        rw [hr] at h
        cases h
        exact ⟨name, c, a, rfl, hplan, hr⟩

/-- With a path that gives a URL, a command with options sends one request to it, unless one of them
cannot be encoded. -/
theorem exists_begin_of_senders (s : Session) (hc : (c, n) ∈ senders)
    (hline : Command.ofLine line = .ok command) (hname : command.name = c.name)
    (hlength : command.positionals.length = n) {u : Url}
    (hu : s.connection.base.url (Path.resolve s.workPath (command.positionals.headD [])) none =
      .ok u) :
    ∃ call report, s.begin line =
      match Remote.encodingProblem? command.options with
      | some problem => (s, .ended (.error (.raised "UnicodeEncodeError".toList problem)))
      | none => (s, .asks call ⟨call.method, { u with query := Remote.query? command.options },
          call.content⟩ report) := by
  obtain ⟨a, hstep, hpath, hoptions⟩ := dispatchLine_of_senders hc hline hname hlength
  obtain ⟨call, report, hplan, htarget, hcall⟩ := exists_call_of_senders hc s.workPath a
  have hurl : s.connection.base.url call.path none = .ok u := by rw [htarget, target, hpath, hu]
  have hrequest := Call.request_of_url hurl
  rw [hcall, hoptions] at hrequest
  refine ⟨call, report, ?_⟩
  rw [begin, plan, hstep]
  simp only [Outcome.map_ok, hplan, hrequest]
  cases Remote.encodingProblem? command.options <;> rfl

theorem query_of_silent (s : Session) (hline : Command.ofLine line = .ok command)
    (hname : command.name ∈ silent.map name) :
    ∀ r ∈ (s.begin line).2.requests, r.url.query = none := by
  rcases hbegin : (s.begin line).2 with outcome | ⟨call, request, report⟩
  · exact nofun
  · obtain ⟨word, c, a, hstep, hplan, hr⟩ := exists_plan_of_asks hbegin
    obtain ⟨command', hcommand, hact⟩ := exists_command hstep
    rw [hline] at hcommand
    cases hcommand
    rw [hact word c a rfl] at hname
    have hsilent : c ∈ silent := by
      cases c with
      | ls | stat | cat => decide
      | pwd | cd | openFile | read | write | rm => exact absurd hname (by decide)
    obtain ⟨hurl, -, -⟩ := Call.url_of_request hr
    rw [options_of_silent hsilent hplan, Base.url_query] at hurl
    obtain ⟨u, -, hu⟩ := Outcome.exists_ok_of_map hurl
    rintro r hmem
    rw [List.mem_singleton.mp hmem, hu]
    rfl

/-- The one request of a command with options has all of them in its query, in their order, whatever
their texts are, and none makes no query. With an option that cannot be encoded there is no request,
but an error that tells where it is. Other commands on a path have no query. What was read as an
option is read again from its text in the query, unless it has a real number in it or is a text that
reads as another value. -/
theorem options_sent (hline : Command.ofLine line = .ok command) (s : Session) (sequence : Int) :
    ∃ requests, (s.execute line sequence).1.connection.sent = s.connection.sent ++ requests ∧
      (∀ c n, (c, n) ∈ senders → command.name = c.name → command.positionals.length = n →
        ∀ u, s.connection.base.url
            (Path.resolve s.workPath (command.positionals.headD [])) none = .ok u →
          ((∀ o ∈ command.options, o.2.IsEncodable) →
            ∃ r : Request, requests = [r] ∧ (r.url.query = none ↔ command.options = []) ∧
              r.url.query.elim [] Url.Form.decode =
                command.options.map fun o => (o.1, Command.renderValue o.2)) ∧
          ((¬∀ o ∈ command.options, o.2.IsEncodable) →
            requests = [] ∧ ∃ problem,
              Remote.encodingProblem? command.options = some problem ∧
                (s.execute line sequence).2 = some ⟨problem, true, sequence, line⟩)) ∧
      (command.name ∈ silent.map name → ∀ r ∈ requests, r.url.query = none) ∧
      ∀ o ∈ command.options, o.2.HasNoReal →
        (∀ t, o.2 = .text t → Command.decodeValue t.toText = .text t) →
        Command.decodeValue (Command.renderValue o.2) = o.2 := by
  refine ⟨(s.begin line).2.requests, (execute_begun s line sequence).2.2, ?_,
    query_of_silent s hline, fun o => Command.decodeValue_renderValue_of_mem hline⟩
  intro c n hc hname hlength u hu
  obtain ⟨call, report, hbegin⟩ := exists_begin_of_senders s hc hline hname hlength hu
  cases hproblem : Remote.encodingProblem? command.options with
  | none =>
    refine ⟨fun _ => ?_, fun hnot => absurd (Remote.encodingProblem?_eq_none_iff.mp hproblem) hnot⟩
    rw [hbegin, hproblem]
    exact ⟨_, rfl, Remote.query?_eq_none_iff, Remote.decode_query? command.options⟩
  | some problem =>
    rw [hproblem] at hbegin
    refine ⟨fun hencodable => ?_, fun _ => ⟨by rw [hbegin]; rfl, problem, rfl, ?_⟩⟩
    · rw [Remote.encodingProblem?_eq_none_iff.mpr hencodable] at hproblem
      cases hproblem
    · rw [execute_of_ended (congrArg Prod.snd hbegin), Result.of,
        Fault.shown_raised _ (Remote.encodingProblem_ne_nil hproblem)]

def markedLine : Text := "open /a --&=+ \"x %2B=é\" -- [1,\"&\",\x7b\x7d] --k".toList

theorem options_sent_marked : ∃ r : Request,
    ((start .inMemory [] ['/']).execute markedLine 1).1.connection.sent = [r] ∧
      r.url.query.elim [] Url.Form.decode =
        [("&=+".toList, "x %2B=é".toList), ([], "[1,\"&\",\x7b\x7d]".toList),
          ("k".toList, "true".toList)] := by
  have hline : Command.ofLine markedLine = .ok ⟨"open".toList, ["/a".toList],
      [("&=+".toList, .text "x %2B=é".toList), ([], .list [.int 1, .text "&".toList, .map []]),
        ("k".toList, .bool true)]⟩ := by decide +kernel
  obtain ⟨requests, hsent, hsender, -⟩ := options_sent hline (start .inMemory [] ['/']) 1
  obtain ⟨hencodable, -⟩ := hsender .openFile 1 (by decide) rfl rfl _ rfl
  obtain ⟨r, rfl, -, hquery⟩ := hencodable <| by
    simp [Value.IsEncodable]
  refine ⟨r, hsent, ?_⟩
  rw [hquery]
  decide +kernel

/-- Half of a pair on its own has no octets, and so nothing is sent. -/
theorem not_sent_half : ¬∀ (s : Session) (line : Text) (command : Command) (sequence : Int),
    Command.ofLine line = .ok command → ∀ c n, (c, n) ∈ senders → command.name = c.name →
      command.positionals.length = n → ∀ u, s.connection.base.url
          (Path.resolve s.workPath (command.positionals.headD [])) none = .ok u →
        ∃ r, (s.execute line sequence).1.connection.sent = s.connection.sent ++ [r] := by
  intro h
  have hline : Command.ofLine "open /a --k '\"\\ud800\"'".toList =
      .ok ⟨"open".toList, ["/a".toList], [("k".toList, .text [.half 0])]⟩ := by cbv
  have hproblem : Remote.encodingProblem? [("k".toList, .text [.half 0])] = some _ := rfl
  have hclear : ∀ c ∈ ['/', 'a'], Url.isControl c = false :=
    List.forall_mem_cons.mpr ⟨rfl, List.forall_mem_singleton.mpr rfl⟩
  have hu := Base.url_inMemory (s := ['a']) (by decide) hclear none
  obtain ⟨r, hr⟩ := h (start .inMemory [] ['/']) _ _ 1 hline .openFile 1 (by decide) rfl rfl _ hu
  obtain ⟨call, report, hbegin⟩ := exists_begin_of_senders (start .inMemory [] ['/'])
    (by decide : (FileCommand.openFile, 1) ∈ senders) hline rfl rfl hu
  rw [(execute_begun _ _ _).2.2, hbegin, hproblem] at hr
  cases hr

end Session

end RemoteShell
