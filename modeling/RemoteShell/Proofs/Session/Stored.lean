import Mathlib.Data.List.Permutation
import RemoteShell.Proofs.Session.Effect
import RemoteShell.Proofs.Session.Named
import RemoteShell.Proofs.Session.WorkPath
import RemoteShell.Proofs.Url.Joined

set_option autoImplicit false

namespace RemoteShell

theorem Call.url_of_request {call : Call} {base : Base} {r : Request}
    (h : call.request base = .ok r) :
    base.url call.path (Remote.query? call.options) = .ok r.url ∧ r.method = call.method ∧
      r.body = call.content := by
  obtain ⟨url, hurl, -, rfl⟩ := request_eq_ok_iff.mp h
  exact ⟨hurl, rfl, rfl⟩

theorem Call.request_of_url {call : Call} {base : Base} {u : Url}
    (hu : base.url call.path none = .ok u) :
    call.request base =
      match Remote.encodingProblem? call.options with
      | some problem => .error (.raised "UnicodeEncodeError".toList problem)
      | none =>
        .ok ⟨call.method, { u with query := Remote.query? call.options }, call.content⟩ := by
  rw [request, Base.url_query, hu]
  rfl

namespace Connection

variable {c : Connection} {call : Call} {r : Request}

theorem ask_of_unscripted (hscript : c.script = []) (hr : call.request c.base = .ok r) :
    c.ask call = (c.after r (c.server.answer r).1,
      some (outcome call.path r (.answered (c.server.answer r).2))) := by
  simp only [ask, hr, exchange, hscript, answered, after, List.drop_nil, Option.map_some]

theorem ask_of_refused {fault : Fault} (hr : call.request c.base = .error fault) :
    c.ask call = (c, some (.error fault)) := by
  simp only [ask, hr]

theorem isTyped_of_outcome {path : Text} {response response' : Response}
    (h : outcome path r (.answered response) = .ok response') : r.url.isTyped = true := by
  unfold outcome at h
  dsimp only at h
  split at h
  · assumption
  · cases h

end Connection

namespace Session

open FileCommand

/-- The sessions that lines lead to over a server in memory. -/
inductive Served (base : Base) : Session → Prop where
  | start (files : List (Text × Text)) (path : Text) : Served base (.start base files path)
  | execute {s : Session} (h : Served base s) (line : Text) (sequence : Int) :
      Served base (s.execute line sequence).1

structure IsServed (base : Base) (s : Session) : Prop where
  directory : Path.IsDirectory s.workPath
  base : s.connection.base = base
  script : s.connection.script = []

variable {base : Base} {s s' : Session} {line name : Text} {sequence : Int} {c : FileCommand}
  {arguments : Arguments}

theorem IsServed.isReply (h : s.IsServed base) : ∀ x ∈ s.connection.script, x.IsReply := by
  simp [h.script]

theorem IsServed.execute (h : s.IsServed base) (line : Text) (sequence : Int) :
    (s.execute line sequence).1.IsServed base := by
  refine ⟨isDirectory_execute h.directory line sequence, ?_, ?_⟩
  all_goals
    rcases hline : FileCommand.registry.dispatchLine line with fault | ⟨markup⟩ | ⟨name, c, a⟩
    · rw [execute_of_error hline]
      first | exact h.base | exact h.script
    · rw [execute_of_say hline]
      first | exact h.base | exact h.script
    · obtain ⟨after, outcome, hafter, heffect⟩ := perform_effect h.isReply c a
      rw [execute_of_act hline, hafter]
      first
        | exact heffect.base.trans h.base
        | exact List.subset_nil.mp (h.script ▸ heffect.script)

theorem Served.isServed (h : Served base s) : s.IsServed base := by
  induction h with
  | start files path => exact ⟨(Path.isCanonical_root.resolve path).asDirectory, rfl, rfl⟩
  | execute _ line sequence ih => exact ih.execute line sequence

theorem IsServed.isTyped (h : s.IsServed base) {address : Text}
    (hparse : Base.parse address = .ok base) {call : Call} {r : Request}
    (hpath : Path.IsCanonical call.path) (hr : call.request s.connection.base = .ok r) :
    r.url.isTyped = base.bare.isTyped := by
  obtain ⟨hurl, -, -⟩ := Call.url_of_request hr
  obtain ⟨rest, hrest, -⟩ := hpath.exists_cons
  rw [h.base, hrest] at hurl
  exact Base.isTyped_of_rooted hparse hurl

/-- A line that fails, or names no command that writes or deletes. -/
def IsQuiet (s : Session) (line : Text) (sequence : Int) : Prop :=
  ∀ command, Command.ofLine line = .ok command →
    command.name ∈ [FileCommand.write.name, FileCommand.rm.name] →
      ∃ r, (s.execute line sequence).2 = some r ∧ r.isError = true

inductive Quiet (first : Session) : Session → Prop where
  | refl : Quiet first first
  | execute {s : Session} (h : Quiet first s) {line : Text} {sequence : Int}
      (hline : s.IsQuiet line sequence) : Quiet first (s.execute line sequence).1

theorem isError_of_iff {outcome : Except Fault Text} :
    (Result.of line sequence outcome).isError = true ↔ ∃ fault, outcome = .error fault := by
  cases outcome <;> simp [Result.of]

theorem IsServed.server_of_failed (h : s.IsServed base) {address : Text}
    (hparse : Base.parse address = .ok base) (htyped : base.bare.isTyped = true) {r : Result}
    (hr : (s.execute line sequence).2 = some r) (herror : r.isError = true) :
    (s.execute line sequence).1.connection.server = s.connection.server := by
  rcases hline : FileCommand.registry.dispatchLine line with fault | ⟨markup⟩ | ⟨name, c, a⟩
  · rw [execute_of_error hline]
  · rw [execute_of_say hline]
  by_cases hremote : c ∈ onRemote
  · obtain ⟨call, report, hplan, hpath⟩ := exists_ask hremote s.workPath a
    rw [execute_of_ask hline hplan] at hr ⊢
    cases hrequest : call.request s.connection.base with
    | error fault => rw [Connection.ask_of_refused hrequest]
    | ok request =>
      have hcanonical : Path.IsCanonical call.path := hpath ▸ h.directory.isCanonical.resolve _
      have hurl := (h.isTyped hparse hcanonical hrequest).trans htyped
      rw [Connection.ask_of_unscripted h.script hrequest] at hr ⊢
      cases hr
      obtain ⟨fault, hfault⟩ := isError_of_iff.mp herror
      rcases Outcome.error_of_bind hfault with hfault | ⟨response, -, hfault⟩
      · exact Server.handle_of_refused (Connection.not_succeeded_of_outcome hurl hfault)
      · have hreads := (report_error hplan hfault).2
        exact Server.handle_of_reads (Call.method_of_request hrequest ▸ hreads)
  · rw [execute_of_act hline]
    cases c with
    | pwd | cd => rfl
    | ls | stat | openFile | read | cat | write | rm => exact absurd (by decide) hremote

theorem IsServed.files_of_isQuiet (h : s.IsServed base) {address : Text}
    (hparse : Base.parse address = .ok base) (htyped : base.bare.isTyped = true)
    (hquiet : s.IsQuiet line sequence) :
    (s.execute line sequence).1.connection.server.files = s.connection.server.files := by
  rcases hline : FileCommand.registry.dispatchLine line with fault | ⟨markup⟩ | ⟨name, c, a⟩
  · rw [execute_of_error hline]
  · rw [execute_of_say hline]
  obtain ⟨after, outcome, hafter, heffect⟩ := perform_effect h.isReply c a
  obtain ⟨command, hcommand, hname⟩ := exists_command hline
  refine Classical.byContradiction fun hne => ?_
  have hstores : c = .write ∨ c = .rm := by
    rw [execute_of_act hline, hafter] at hne
    exact heffect.stored hne
  have hmem : command.name ∈ [FileCommand.write.name, FileCommand.rm.name] := by
    rw [hname name c a rfl]
    rcases hstores with rfl | rfl <;> decide
  obtain ⟨r, hr, herror⟩ := hquiet command hcommand hmem
  exact hne (congrArg Server.files (h.server_of_failed hparse htyped hr herror))

theorem Quiet.kept (h : Quiet s s') (hs : s.IsServed base) {address : Text}
    (hparse : Base.parse address = .ok base) (htyped : base.bare.isTyped = true) :
    s'.IsServed base ∧ s'.connection.server.files = s.connection.server.files := by
  induction h with
  | refl => exact ⟨hs, rfl⟩
  | execute _ hline ih =>
    obtain ⟨hserved, hfiles⟩ := ih
    exact ⟨hserved.execute _ _, (hserved.files_of_isQuiet hparse htyped hline).trans hfiles⟩

theorem exists_markup {outcome : Except Fault Text}
    (h : (Result.of line sequence outcome).isError = false) : ∃ markup, outcome = .ok markup := by
  cases outcome with
  | ok markup => exact ⟨markup, rfl⟩
  | error fault => cases h

/-- The request of a call goes where any other for the same path goes. -/
theorem IsServed.exists_url (h : s.IsServed base) {call : Call} {r : Request}
    (hr : call.request s.connection.base = .ok r) :
    ∃ u, base.url call.path none = .ok u ∧ r.url.seenPath = u.seenPath := by
  obtain ⟨hurl, -, -⟩ := Call.url_of_request hr
  rw [h.base, Base.url_query] at hurl
  obtain ⟨u, hu, hr⟩ := Outcome.exists_ok_of_map hurl
  exact ⟨u, hu, by rw [hr]; rfl⟩

theorem IsServed.stored (h : s.IsServed base) {address : Text}
    (hparse : Base.parse address = .ok base)
    (hline : FileCommand.registry.dispatchLine line = .ok (.act name .write arguments))
    {r : Result} (hr : (s.execute line sequence).2 = some r) (hok : r.isError = false) :
    base.bare.isTyped = true ∧ ∃ u, base.url (target s.workPath arguments) none = .ok u ∧
      Assoc.get? u.seenPath (s.execute line sequence).1.connection.server.files =
        some (arguments.word contentName []) := by
  obtain ⟨call, report, hplan, hpath, hput, hcontent⟩ : ∃ call report,
      FileCommand.write.plan s.workPath arguments = .ask call report ∧
        call.path = target s.workPath arguments ∧ call.method = .put ∧
        call.content = arguments.word contentName [] := ⟨_, _, rfl, rfl, rfl, rfl⟩
  rw [execute_of_ask hline hplan] at hr ⊢
  cases hrequest : call.request s.connection.base with
  | error fault =>
    rw [Connection.ask_of_refused hrequest] at hr
    cases hr
    cases hok
  | ok request =>
    rw [Connection.ask_of_unscripted h.script hrequest] at hr ⊢
    cases hr
    obtain ⟨markup, hmarkup⟩ := exists_markup hok
    obtain ⟨response, hresponse, -⟩ := Outcome.exists_ok_of_bind hmarkup
    obtain ⟨u, hu, hseen⟩ := h.exists_url hrequest
    obtain ⟨-, hmethod, hbody⟩ := Call.url_of_request hrequest
    have hcanonical : Path.IsCanonical call.path := hpath ▸ h.directory.isCanonical.resolve _
    refine ⟨(h.isTyped hparse hcanonical hrequest).symm.trans
      (Connection.isTyped_of_outcome hresponse), u, hpath ▸ hu, ?_⟩
    simp only [Connection.after, Server.answer, hmethod, hput, hbody, hcontent, hseen,
      Server.handle, Assoc.get?_put, if_true]

theorem exists_read (hc : c ∈ [FileCommand.cat, .read]) (workPath : Text) (a : Arguments) :
    ∃ call, c.plan workPath a =
        .ask call (fun r => .ok (content (target workPath a) r.text)) ∧
      call.path = target workPath a ∧ call.options = c.sentOptions a ∧ call.method = .get := by
  cases c with
  | read | cat => exact ⟨_, rfl, rfl, rfl, rfl⟩
  | pwd | cd | ls | stat | openFile | write | rm => exact absurd hc (by decide)

/-- Reading a file asks for it once, changes nothing, and tells what is in it. -/
theorem IsServed.execute_reads (h : s.IsServed base) {address : Text}
    (hparse : Base.parse address = .ok base) (htyped : base.bare.isTyped = true)
    (hline : FileCommand.registry.dispatchLine line = .ok (.act name c arguments))
    (hc : c ∈ [FileCommand.cat, .read]) {u : Url} {stored : Text}
    (hu : base.url (target s.workPath arguments) none = .ok u)
    (hencodable : ∀ o ∈ c.sentOptions arguments, o.2.IsEncodable)
    (hstored : Assoc.get? u.seenPath s.connection.server.files = some stored) (sequence : Int) :
    ∃ request, request.method = .get ∧ (s.connection.server.answer request).2.text = stored ∧
      s.execute line sequence =
        ({ s with connection.sent := s.connection.sent ++ [request] },
          some ⟨content (target s.workPath arguments) stored, false, sequence, line⟩) := by
  obtain ⟨call, hplan, hpath, hoptions, hget⟩ := exists_read hc s.workPath arguments
  have hcanonical : Path.IsCanonical call.path := hpath ▸ h.directory.isCanonical.resolve _
  obtain ⟨request, hrequest⟩ : ∃ request, call.request s.connection.base = .ok request := by
    rw [Call.request_of_url (by rw [h.base, hpath, hu]), hoptions,
      Remote.encodingProblem?_eq_none_iff.mpr hencodable]
    exact ⟨_, rfl⟩
  obtain ⟨u', hu', hseen⟩ := h.exists_url hrequest
  obtain rfl : u' = u := Except.ok.inj (hu'.symm.trans (hpath ▸ hu))
  have hmethod : request.method = .get := (Call.method_of_request hrequest).trans hget
  have hanswer : s.connection.server.answer request =
      (s.connection.server, .ofText 200 stored) := by
    rw [Server.answer, hmethod, hseen]
    exact Server.handle_get hstored _
  have hreply : Connection.outcome call.path request (.answered (.ofText 200 stored)) =
      .ok (.ofText 200 stored) := by
    rw [Connection.outcome, (h.isTyped hparse hcanonical hrequest).trans htyped]
    rfl
  refine ⟨request, hmethod, ?_, ?_⟩
  · rw [hanswer]
    exact Response.text_ofText 200 stored
  rw [execute_of_ask hline hplan, Connection.ask_of_unscripted h.script hrequest, hanswer, hreply]
  simp only [Connection.after, h.script, List.drop_nil, Option.map_some, Except.bind,
    Response.text_ofText]
  rw [← h.script]
  rfl

theorem IsServed.execute_of_encodingProblem (h : s.IsServed base)
    (hline : FileCommand.registry.dispatchLine line = .ok (.act name c arguments))
    (hc : c ∈ [FileCommand.cat, .read]) {u : Url}
    (hu : base.url (target s.workPath arguments) none = .ok u) {problem : Text}
    (hproblem : Remote.encodingProblem? (c.sentOptions arguments) = some problem)
    (sequence : Int) :
    s.execute line sequence = (s, some ⟨problem, true, sequence, line⟩) := by
  obtain ⟨call, hplan, hpath, hoptions, -⟩ := exists_read hc s.workPath arguments
  have hrequest : call.request s.connection.base =
      .error (.raised "UnicodeEncodeError".toList problem) := by
    rw [Call.request_of_url (by rw [h.base, hpath, hu]), hoptions, hproblem]
  rw [execute_of_ask hline hplan, Connection.ask_of_refused hrequest]
  simp only [Option.map_some, Except.bind, Result.of,
    Fault.shown_raised _ (Remote.encodingProblem_ne_nil hproblem)]

/-- After a file was written, a line that reads under its path from wherever the session is then
sends one request and answers with the text, as long as no line in between writes or deletes. Only
an option that cannot be encoded keeps it from sending anything. -/
theorem Served.reads_written {address : Text} (hparse : Base.parse address = .ok base)
    (h : Served base s)
    (hline : FileCommand.registry.dispatchLine line = .ok (.act name .write arguments))
    {r : Result} (hr : (s.execute line sequence).2 = some r) (hok : r.isError = false)
    (hquiet : Quiet (s.execute line sequence).1 s') {line' name' : Text} {arguments' : Arguments}
    (hline' : FileCommand.registry.dispatchLine line' = .ok (.act name' c arguments'))
    (hc : c ∈ [FileCommand.cat, .read])
    (htarget : target s'.workPath arguments' = target s.workPath arguments) (sequence' : Int) :
    ((∀ o ∈ c.sentOptions arguments', o.2.IsEncodable) →
        ∃ request, request.method = .get ∧
          (s'.connection.server.answer request).2.text = arguments.word contentName [] ∧
            s'.execute line' sequence' =
              ({ s' with connection.sent := s'.connection.sent ++ [request] },
                some ⟨content (target s.workPath arguments) (arguments.word contentName []), false,
                  sequence', line'⟩)) ∧
      ((¬∀ o ∈ c.sentOptions arguments', o.2.IsEncodable) →
        ∃ problem, Remote.encodingProblem? (c.sentOptions arguments') = some problem ∧
          s'.execute line' sequence' = (s', some ⟨problem, true, sequence', line'⟩)) := by
  have hserved := h.isServed
  obtain ⟨htyped, u, hu, hstored⟩ := hserved.stored hparse hline hr hok
  obtain ⟨hserved', hfiles⟩ := hquiet.kept (hserved.execute line sequence) hparse htyped
  rw [← hfiles] at hstored
  rw [← htarget] at hu ⊢
  refine ⟨fun hencodable =>
    hserved'.execute_reads hparse htyped hline' hc hu hencodable hstored sequence', fun hnot => ?_⟩
  cases hproblem : Remote.encodingProblem? (c.sentOptions arguments') with
  | none => exact absurd (Remote.encodingProblem?_eq_none_iff.mp hproblem) hnot
  | some problem =>
    exact ⟨problem, rfl,
      hserved'.execute_of_encodingProblem hline' hc hu hproblem sequence'⟩

theorem reads_written_moved : ∃ (s : Session) (request : Request),
    s.workPath = "/x/y/".toList ∧ request.method = .get ∧
      s.execute "read ../../a --raw".toList 4 =
        ({ s with connection.sent := s.connection.sent ++ [request] },
          some ⟨content "/a".toList "ü\"[b]".toList, false, 4, "read ../../a --raw".toList⟩) := by
  have hstart : Served .inMemory (.start .inMemory [] ['/']) := .start [] ['/']
  have hwrite : FileCommand.registry.dispatchLine "write n/../a 'ü\"[b]'".toList =
      .ok (.act "write".toList .write _) := rfl
  have hmoves (s : Session) : s.IsQuiet "cd /x/y".toList 2 := fun command hcommand hname => by
    cases hcommand
    exact absurd hname (by decide)
  have hmoved := (Quiet.refl : Quiet ((Session.start .inMemory [] ['/']).execute
    "write n/../a 'ü\"[b]'".toList 1).1 _).execute (hmoves _)
  have hfailed := hmoved.execute
    (show Session.IsQuiet _ "rm /b".toList 3 from fun _ _ _ => ⟨_, rfl, rfl⟩)
  have hread : FileCommand.registry.dispatchLine "read ../../a --raw".toList =
      .ok (.act "read".toList .read _) := rfl
  have hwritten : ((Session.start .inMemory [] ['/']).execute
      "write n/../a 'ü\"[b]'".toList 1).2 = some ⟨_, false, 1, _⟩ := rfl
  have hreads := Served.reads_written Base.parse_inMemory hstart hwrite hwritten rfl hfailed hread
    (by decide)
  obtain ⟨request, hmethod, -, hexecute⟩ := (hreads (by decide) 4).1 fun o ho => by
    obtain rfl := List.mem_singleton.mp ho
    trivial
  exact ⟨_, request, rfl, hmethod, hexecute⟩

/-- An option that is half of a pair keeps a file from being read at all. -/
theorem not_reads_written_half : ¬∀ (s s' : Session) (line line' name name' : Text)
    (arguments arguments' : Arguments) (c : FileCommand) (sequence sequence' : Int) (r : Result),
    Served .inMemory s →
      FileCommand.registry.dispatchLine line = .ok (.act name .write arguments) →
      (s.execute line sequence).2 = some r → r.isError = false →
      Quiet (s.execute line sequence).1 s' →
      FileCommand.registry.dispatchLine line' = .ok (.act name' c arguments') →
      c ∈ [FileCommand.cat, .read] →
      target s'.workPath arguments' = target s.workPath arguments →
        ∃ request, (s'.execute line' sequence').1.connection.sent =
          s'.connection.sent ++ [request] := by
  intro h
  let arguments : Arguments :=
    [(pathName, .word "/a".toList), ("options".toList, .options [("k".toList, .text [.half 0])])]
  have hline : Command.ofLine "read /a --k '\"\\ud800\"'".toList =
      .ok ⟨"read".toList, ["/a".toList], [("k".toList, .text [.half 0])]⟩ := by cbv
  have hread : FileCommand.registry.dispatchLine "read /a --k '\"\\ud800\"'".toList =
      .ok (.act "read".toList .read arguments) := by
    rw [Registry.dispatchLine, hline]
    rfl
  have hwrite : FileCommand.registry.dispatchLine "write /a x".toList =
      .ok (.act "write".toList .write _) := rfl
  have hwritten : ((start .inMemory [] ['/']).execute "write /a x".toList 1).2 =
      some ⟨_, false, 1, _⟩ := rfl
  obtain ⟨request, hrequest⟩ := h _ _ _ _ _ _ _ _ .read 1 2 _ (.start [] ['/']) hwrite hwritten rfl
    .refl hread (by decide) (by decide)
  have hstart : Served .inMemory (.start .inMemory [] ['/']) := .start [] ['/']
  have hserved := hstart.isServed.execute "write /a x".toList 1
  have htarget : target ((start .inMemory [] ['/']).execute "write /a x".toList 1).1.workPath
    arguments = ['/', 'a'] := rfl
  have hclear : ∀ c ∈ ['/', 'a'], Url.isControl c = false :=
    List.forall_mem_cons.mpr ⟨rfl, List.forall_mem_singleton.mpr rfl⟩
  have hu := Base.url_inMemory (s := ['a']) (by decide) hclear none
  rw [← htarget] at hu
  obtain ⟨problem, hproblem⟩ : ∃ problem,
      Remote.encodingProblem? (FileCommand.read.sentOptions arguments) = some problem := ⟨_, rfl⟩
  rw [hserved.execute_of_encodingProblem hread (by decide) hu hproblem,
    List.self_eq_append_right] at hrequest
  cases hrequest

end Session

end RemoteShell
