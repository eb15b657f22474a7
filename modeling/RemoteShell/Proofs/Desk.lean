import RemoteShell.History
import RemoteShell.Proofs.Session.Effect

set_option autoImplicit false

namespace RemoteShell

/-- A shell at work: the commands it knows, the log of submitted lines, and its session. -/
structure Desk where
  registry : Registry FileCommand
  history : History
  session : Session

namespace Desk

def execute (d : Desk) (line : Text) (sequence : Int) : Desk × Option Result :=
  match d.registry.dispatchLine line with
  | .error fault => (d, some (.of line sequence (.error fault)))
  | .ok (.say markup) => (d, some (.of line sequence (.ok markup)))
  | .ok (.act _ c arguments) =>
    let (session, outcome) := d.session.perform (c.plan d.session.workPath arguments)
    ({ d with session := session }, outcome.map (.of line sequence))

def record (d : Desk) (line : Text) : Desk := { d with history := d.history.append line }

def scripted (d : Desk) (script : List Scripted) : Desk :=
  { d with session.connection.script := script }

/-- The desks that lines lead to over a server in memory, before which scripted replies may come. -/
inductive Reached (base : Base) : Desk → Prop where
  | start (history : History) (files : List (Text × Text)) (path : Text) :
      Reached base ⟨FileCommand.registry, history, .start base files path⟩
  | record {d : Desk} (h : Reached base d) (line : Text) : Reached base (d.record line)
  | scripted {d : Desk} (h : Reached base d) {script : List Scripted}
      (hscript : ∀ x ∈ script, x.IsReply) : Reached base (d.scripted script)
  | execute {d : Desk} (h : Reached base d) (line : Text) (sequence : Int) :
      Reached base (d.execute line sequence).1

/-- With the commands on files, a desk executes a line as its session does. -/
theorem execute_files (history : History) (s : Session) (line : Text) (sequence : Int) :
    execute ⟨FileCommand.registry, history, s⟩ line sequence =
      (⟨FileCommand.registry, history, (s.execute line sequence).1⟩,
        (s.execute line sequence).2) := by
  unfold execute
  rcases hline : FileCommand.registry.dispatchLine line with fault | ⟨markup⟩ | ⟨name, c, arguments⟩
  · rw [Session.execute_of_error hline]
  · rw [Session.execute_of_say hline]
  · rw [Session.execute_of_act hline]

/-- What a line may have done to a desk by the time of its result. -/
structure Executed (base : Base) (line : Text) (sequence : Int) (before after : Desk)
    (r : Result) : Prop where
  carried : r.line = line ∧ r.sequence = sequence
  sent : ∃ requests, requests.length ≤ 1 ∧
    after.session.connection.sent = before.session.connection.sent ++ requests
  history : after.history = before.history
  registry : after.registry = before.registry
  failed : r.isError = true → r.markup ≠ [] ∧ after.session.workPath = before.session.workPath ∧
    (base.scheme ≠ [] → after.session.connection.server = before.session.connection.server)
  succeeded : r.isError = false → ∃ command, Command.ofLine line = .ok command ∧
    (after.session.workPath ≠ before.session.workPath → command.name = "cd".toList) ∧
    (after.session.connection.server.files ≠ before.session.connection.server.files →
      command.name = "write".toList ∨ command.name = "rm".toList) ∧
    (∃ p, ∀ q : Text, q ≠ p → Assoc.get? q after.session.connection.server.files =
      Assoc.get? q before.session.connection.server.files) ∧
    (after.session.connection.server.opened ≠ before.session.connection.server.opened →
      command.name = "open".toList)

/-- What a desk is executed with: the built-in commands, and a remote that always replies. -/
structure IsReady (base : Base) (d : Desk) : Prop where
  registry : d.registry = FileCommand.registry
  base : d.session.connection.base = base
  script : ∀ x ∈ d.session.connection.script, x.IsReply

variable {base : Base} {d : Desk}

theorem Executed.still {line : Text} (sequence : Int) {outcome : Except Fault Text}
    (hfault : ∀ fault, outcome = .error fault → fault.IsNamed)
    (hok : ∀ markup, outcome = .ok markup → ∃ command, Command.ofLine line = .ok command) :
    Executed base line sequence d d (.of line sequence outcome) where
  carried := by cases outcome <;> exact ⟨rfl, rfl⟩
  sent := ⟨[], Nat.zero_le 1, (List.append_nil _).symm⟩
  history := rfl
  registry := rfl
  failed h := by
    cases outcome with
    | ok markup => cases h
    | error fault => exact ⟨Fault.shown_ne_nil (hfault fault rfl), rfl, fun _ => rfl⟩
  succeeded h := by
    cases outcome with
    | error fault => cases h
    | ok markup =>
      obtain ⟨command, hcommand⟩ := hok markup rfl
      exact ⟨command, hcommand, absurd rfl, absurd rfl, ⟨[], fun _ _ => rfl⟩, absurd rfl⟩

theorem Executed.of_effect {line : Text} (sequence : Int) {command : Command} {c : FileCommand}
    (hcommand : Command.ofLine line = .ok command) (hname : command.name = c.name) {s : Session}
    {outcome : Except Fault Text} (hbase : d.session.connection.base = base)
    (hscheme : base.scheme ≠ [] → Url.IsScheme base.scheme)
    (h : d.session.Effect c s outcome) :
    Executed base line sequence d { d with session := s } (.of line sequence outcome) where
  carried := by cases outcome <;> exact ⟨rfl, rfl⟩
  sent := h.sent
  history := rfl
  registry := rfl
  failed herror := by
    cases outcome with
    | ok markup => cases herror
    | error fault =>
      obtain ⟨hnamed, hpath, hserver⟩ := h.failed fault rfl
      exact ⟨Fault.shown_ne_nil hnamed, hpath, fun hne => hserver (hbase ▸ hscheme hne)⟩
  succeeded _ := by
    refine ⟨command, hcommand, fun hne => ?_, fun hne => ?_, h.single, fun hne => ?_⟩
    · rw [hname, h.moved hne, FileCommand.name]
    · rcases h.stored hne with rfl | rfl
      · exact .inl hname
      · exact .inr hname
    · rw [hname, h.opened hne, FileCommand.name]

theorem IsReady.execute (h : d.IsReady base)
    (hscheme : base.scheme ≠ [] → Url.IsScheme base.scheme) (line : Text) (sequence : Int) :
    ∃ d' r, d.execute line sequence = (d', some r) ∧ d'.IsReady base ∧
      Executed base line sequence d d' r := by
  unfold Desk.execute
  rcases hline : d.registry.dispatchLine line with fault | ⟨markup⟩ | ⟨word, c, a⟩
  -- Only the last of the three gets to the session.
  all_goals rw [h.registry] at hline
  · refine ⟨d, _, rfl, h, .still sequence ?_ (fun _ h => nomatch h)⟩
    intro fault' hf
    cases hf
    exact Registry.isNamed_dispatchLine hline
  · refine ⟨d, _, rfl, h, .still sequence (fun _ h => nomatch h) (fun _ _ => ?_)⟩
    obtain ⟨command, hcommand, -⟩ := FileCommand.exists_command hline
    exact ⟨command, hcommand⟩
  · obtain ⟨command, hcommand, hname⟩ := FileCommand.exists_command hline
    obtain ⟨s, outcome, hperform, heffect⟩ := Session.perform_effect h.script c a
    dsimp only
    rw [hperform]
    exact ⟨_, _, rfl,
      ⟨h.registry, heffect.base.trans h.base, fun x hx => h.script x (heffect.script hx)⟩,
      .of_effect sequence hcommand (hname word c a rfl) h.base hscheme heffect⟩

theorem Reached.isReady (hscheme : base.scheme ≠ [] → Url.IsScheme base.scheme)
    (h : Reached base d) : d.IsReady base := by
  induction h with
  | start history files path => exact ⟨rfl, rfl, fun _ h => nomatch h⟩
  | record _ line ih => exact ⟨ih.registry, ih.base, ih.script⟩
  | scripted _ hscript ih => exact ⟨ih.registry, ih.base, hscript⟩
  | execute _ line sequence ih =>
    obtain ⟨d', r, he, hd', -⟩ := ih.execute hscheme line sequence
    rwa [he]

/-- On every desk, every line comes to a result, with at most one request. An error leaves the
working path as it was, and the server too if its address names a scheme; a success changes what the
command of the line is for. -/
theorem Reached.exists_executed {address : Text} (hbase : Base.parse address = .ok base)
    (h : Reached base d) (line : Text) (sequence : Int) :
    ∃ d' r, d.execute line sequence = (d', some r) ∧ Executed base line sequence d d' r := by
  have hscheme := Base.isScheme_of_parse hbase
  obtain ⟨d', r, he, -, hr⟩ := (h.isReady hscheme).execute hscheme line sequence
  exact ⟨d', r, he, hr⟩

theorem executed_timeOut : ∃ d : Desk, Reached .inMemory d ∧ d.session.connection.server.files =
      [("/a".toList, "x".toList)] ∧
    (d.execute "rm /a".toList 3).2 = some ⟨"ReadTimeout".toList, true, 3, "rm /a".toList⟩ ∧
    (d.execute "rm /a".toList 3).1.session.connection.server.files =
      [("/a".toList, "x".toList)] := by
  have hscript : ∀ x ∈ [Scripted.reply (.failed "ReadTimeout".toList [])], x.IsReply :=
    List.forall_mem_singleton.mpr (List.cons_ne_nil _ _)
  have hstart : Reached .inMemory _ := .start (.empty none) [("/a".toList, "x".toList)] ['/']
  have hreached := hstart.scripted hscript
  obtain ⟨d', r, he, hr⟩ := Reached.exists_executed Base.parse_inMemory hreached "rm /a".toList 3
  refine ⟨_, hreached, rfl, rfl, ?_⟩
  have hresult : some r = some ⟨"ReadTimeout".toList, true, 3, "rm /a".toList⟩ :=
    (congrArg Prod.snd he).symm
  rw [he, (hr.failed (by rw [Option.some.inj hresult])).2.2 (List.cons_ne_nil _ _)]
  rfl

/-- Without a scheme in the address, a file is written before its response is turned down. -/
theorem not_unchanged_untyped : ∃ base, Base.parse "h.test".toList = .ok base ∧
    ∃ d d' r, Reached base d ∧ d.execute "write /n x".toList 0 = (d', some r) ∧
      r.isError = true ∧
      d'.session.connection.server.files ≠ d.session.connection.server.files := by
  refine ⟨_, rfl, _, _, _, .start (.empty none) [] ['/'], rfl, rfl, ?_⟩
  decide

end Desk

end RemoteShell
