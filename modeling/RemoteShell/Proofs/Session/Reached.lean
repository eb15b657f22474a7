import RemoteShell.Session
import RemoteShell.Proofs.Text.Points
import RemoteShell.Proofs.Url.Target

set_option autoImplicit false

namespace RemoteShell

/-- A value that has octets in a query: only a text with a half in it has none. -/
def Value.IsEncodable : Value → Prop
  | .text s => ∃ t : Text, s = t
  | _ => True

theorem Remote.encodingProblem?_eq_none_iff {options : Assoc Value} :
    encodingProblem? options = none ↔ ∀ o ∈ options, o.2.IsEncodable := by
  unfold encodingProblem?
  rw [List.findSome?_eq_none_iff]
  refine forall₂_congr fun o _ => ?_
  obtain ⟨key, v⟩ := o
  cases v with
  | text s => exact Points.encodingProblem?_eq_none_iff
  | null | bool | int | real | list | map => exact iff_of_true rfl trivial

theorem Remote.encodingProblem_ne_nil {options : Assoc Value} {problem : Text}
    (h : encodingProblem? options = some problem) : problem ≠ [] := by
  obtain ⟨o, -, ho⟩ := List.exists_of_findSome?_eq_some h
  split at ho
  · exact Points.encodingProblem_ne_nil ho
  · cases ho

namespace Connection

/-- A connection on which every request goes to the server in memory. -/
structure IsInMemory (c : Connection) : Prop where
  base : c.base = .inMemory
  script : c.script = []

variable {c : Connection}

theorem IsInMemory.ask (h : c.IsInMemory) (call : Call) : (c.ask call).1.IsInMemory := by
  unfold Connection.ask
  split
  · exact h
  · simp only [exchange, h.script, answered]
    exact ⟨h.base, rfl⟩

theorem ask_inMemory (h : c.IsInMemory) {call : Call} (hpath : Path.IsCanonical call.path)
    (hc : ∀ d ∈ call.path, Url.isControl d = false)
    (hoptions : Remote.encodingProblem? call.options = none) :
    (c.ask call).1.server =
        (c.server.handle call.method (Url.seen call.path) call.content).1 ∧
      (c.ask call).2 = some (Reply.accept call.path (.answered
        (c.server.handle call.method (Url.seen call.path) call.content).2)) := by
  obtain ⟨s, hs, hhead⟩ := hpath.exists_cons
  have hrequest : call.request c.base = .ok ⟨call.method,
      ⟨Base.inMemory.scheme, Base.inMemory.authority,
        Url.percentEncode Url.isPathChar (Url.removeDots (Url.bare call.path)),
        Remote.query? call.options, none⟩, call.content⟩ := by
    rw [hs] at hc
    refine Call.request_eq_ok_iff.mpr ⟨_, ?_, hoptions, rfl⟩
    rw [h.base, hs, Base.url_inMemory hhead hc]
  have hseen := Base.seenPath_encoded call.path Base.inMemory.scheme Base.inMemory.authority
    (Remote.query? call.options) none
  have htyped := Url.isTyped_of_isScheme (u := ⟨Base.inMemory.scheme, Base.inMemory.authority,
    Url.percentEncode Url.isPathChar (Url.removeDots (Url.bare call.path)),
    Remote.query? call.options, none⟩) Url.isScheme_http
  unfold Connection.ask
  rw [hrequest]
  simp only [exchange, h.script, answered, Server.answer, hseen, Option.map_some, outcome, htyped,
    if_true, and_self]

theorem ask_of_control (h : c.IsInMemory) {call : Call}
    (hc : ∃ d ∈ call.path, Url.isControl d = true) :
    ∃ fault, c.ask call = (c, some (.error fault)) := by
  obtain ⟨fault, hf⟩ := Base.url_inMemory_of_control hc (Remote.query? call.options)
  unfold Connection.ask
  rw [Call.request, h.base, hf]
  exact ⟨_, rfl⟩

theorem ask_of_encodingProblem (c : Connection) {call : Call} {problem : Text}
    (hproblem : Remote.encodingProblem? call.options = some problem) :
    ∃ fault, c.ask call = (c, some (.error fault)) := by
  unfold Connection.ask
  split
  · exact ⟨_, rfl⟩
  · next r hr =>
    obtain ⟨-, -, hnone, -⟩ := Call.request_eq_ok_iff.mp hr
    rw [hproblem] at hnone
    cases hnone

end Connection

namespace Session

/-- The sessions that lines lead to from some files and some first working path. -/
inductive Reached : Session → Prop where
  | start (files : List (Text × Text)) (path : Text) : Reached (start .inMemory files path)
  | execute {s : Session} (h : Reached s) (line : Text) (sequence : Int) :
      Reached (s.execute line sequence).1

structure IsSound (s : Session) : Prop where
  directory : Path.IsDirectory s.workPath
  connection : s.connection.IsInMemory

variable {s : Session}

/-- No command leaves a working path that is not a directory below the root. -/
theorem isDirectory_perform (h : Path.IsDirectory s.workPath) (c : FileCommand)
    (arguments : Arguments) :
    Path.IsDirectory (s.perform (c.plan s.workPath arguments)).1.workPath := by
  cases c with
  | cd => exact (h.isCanonical.resolve _).asDirectory
  | pwd | ls | stat | openFile | read | cat | write | rm => exact h

theorem IsSound.perform (h : s.IsSound) (c : FileCommand) (arguments : Arguments) :
    (s.perform (c.plan s.workPath arguments)).1.IsSound := by
  refine ⟨isDirectory_perform h.directory c arguments, ?_⟩
  cases c with
  | pwd | cd => exact h.connection
  | ls | stat | openFile | read | cat | write | rm => exact h.connection.ask _

theorem execute_of_error {line : Text} {fault : Fault}
    (hline : FileCommand.registry.dispatchLine line = .error fault) (sequence : Int) :
    s.execute line sequence = (s, some (.of line sequence (.error fault))) := by
  rw [Session.execute, plan, hline]
  rfl

theorem execute_of_say {line markup : Text}
    (hline : FileCommand.registry.dispatchLine line = .ok (.say markup)) (sequence : Int) :
    s.execute line sequence = (s, some (.of line sequence (.ok markup))) := by
  rw [Session.execute, plan, hline]
  rfl

theorem execute_of_act {line name : Text} {c : FileCommand} {arguments : Arguments}
    (hline : FileCommand.registry.dispatchLine line = .ok (.act name c arguments))
    (sequence : Int) :
    s.execute line sequence =
      ((s.perform (c.plan s.workPath arguments)).1,
        (s.perform (c.plan s.workPath arguments)).2.map (.of line sequence)) := by
  rw [Session.execute, plan, hline]
  rfl

theorem IsSound.execute (h : s.IsSound) (line : Text) (sequence : Int) :
    (s.execute line sequence).1.IsSound := by
  rcases hline : FileCommand.registry.dispatchLine line with fault | ⟨markup⟩ | ⟨name, c, arguments⟩
  · rw [execute_of_error hline]
    exact h
  · rw [execute_of_say hline]
    exact h
  · rw [execute_of_act hline]
    exact h.perform c arguments

theorem isSound_start (files : List (Text × Text)) (path : Text) :
    (start .inMemory files path).IsSound :=
  ⟨(Path.isCanonical_root.resolve path).asDirectory, rfl, rfl⟩

theorem Reached.isSound (h : Reached s) : s.IsSound := by
  induction h with
  | start files path => exact isSound_start files path
  | execute _ line sequence ih => exact ih.execute line sequence

theorem startPath_of_directory {w : Text} (h : Path.IsDirectory w) : startPath w = w := by
  rw [startPath, h.resolve_root, h.asDirectory_eq]

end Session

end RemoteShell
