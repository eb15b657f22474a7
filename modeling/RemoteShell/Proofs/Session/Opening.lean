import RemoteShell.Queue
import RemoteShell.Proofs.Session.Effect

/-! A line up to the place where it has to wait for a reply, and what follows the reply. All that a
line reads of the session it reads before it waits, and nothing it changes comes from the reply but
the server. -/

set_option autoImplicit false

namespace RemoteShell.Session

/-- How the first part of a line ends: with its outcome, or with a request that is on its way. -/
inductive Opening where
  | ended (outcome : Except Fault Text)
  | asks (call : Call) (request : Request) (report : Response → Except Fault Text)

def begin (s : Session) (line : Text) : Session × Opening :=
  match s.plan line with
  | .error fault => (s, .ended (.error fault))
  | .ok (.say markup) => (s, .ended (.ok markup))
  | .ok (.move workPath markup) => ({ s with workPath := workPath }, .ended (.ok markup))
  | .ok (.ask call report) =>
    match call.request s.connection.base with
    | .error fault => (s, .ended (.error fault))
    | .ok request => (s, .asks call request report)

namespace Opening

def requests : Opening → List Request
  | .ended _ => []
  | .asks _ request _ => [request]

def replied (call : Call) (request : Request) (report : Response → Except Fault Text)
    (reply : Reply) : Except Fault Text :=
  (Connection.outcome call.path request reply).bind report

end Opening

variable {s t : Session} {line : Text} {sequence : Int}

theorem begin_cases (s : Session) (line : Text) :
    (∃ outcome, s.begin line = (s, .ended outcome)) ∨
      (∃ workPath markup, s.begin line = ({ s with workPath := workPath }, .ended (.ok markup))) ∨
      ∃ call request report, s.begin line = (s, .asks call request report) := by
  unfold begin
  split
  · exact .inl ⟨_, rfl⟩
  · exact .inl ⟨_, rfl⟩
  · exact .inr (.inl ⟨_, _, rfl⟩)
  · split
    · exact .inl ⟨_, rfl⟩
    · exact .inr (.inr ⟨_, _, _, rfl⟩)

theorem base_begin (s : Session) (line : Text) :
    (s.begin line).1.connection.base = s.connection.base := by
  rcases begin_cases s line with ⟨_, h⟩ | ⟨_, _, h⟩ | ⟨_, _, _, h⟩ <;> rw [h]

theorem plan_congr (hpath : s.workPath = t.workPath) (line : Text) : s.plan line = t.plan line := by
  unfold plan
  rw [hpath]

theorem begin_congr (hpath : s.workPath = t.workPath)
    (hbase : s.connection.base = t.connection.base)
    (line : Text) : (s.begin line).1.workPath = (t.begin line).1.workPath ∧
      (s.begin line).2 = (t.begin line).2 := by
  have hplan := plan_congr hpath line
  unfold begin
  rw [hplan, hbase]
  rcases t.plan line with fault | ⟨markup⟩ | ⟨workPath, markup⟩ | ⟨call, report⟩
  · exact ⟨hpath, rfl⟩
  · exact ⟨hpath, rfl⟩
  · exact ⟨rfl, rfl⟩
  · dsimp only
    cases call.request t.connection.base with
    | error fault => exact ⟨hpath, rfl⟩
    | ok request => exact ⟨hpath, rfl⟩

/-- Executing a line is its first part, and the exchange of its request if it has one. -/
theorem execute_eq_begin (s : Session) (line : Text) (sequence : Int) :
    s.execute line sequence =
      match s.begin line with
      | (s', .ended outcome) => (s', some (.of line sequence outcome))
      | (s', .asks call request report) =>
        ({ s' with connection := (s'.connection.exchange request).1 },
          (s'.connection.exchange request).2.map fun reply =>
            .of line sequence (Opening.replied call request report reply)) := by
  unfold execute begin
  rcases s.plan line with fault | ⟨markup⟩ | ⟨workPath, markup⟩ | ⟨call, report⟩
  · rfl
  · rfl
  · rfl
  · simp only [perform, Connection.ask]
    cases call.request s.connection.base with
    | error fault => rfl
    | ok request =>
      dsimp only
      rw [Option.map_map, Option.map_map]
      rfl

theorem exchange_sent (c : Connection) (r : Request) :
    (c.exchange r).1.sent = c.sent ++ [r] ∧ (c.exchange r).1.base = c.base := by
  unfold Connection.exchange
  split <;> exact ⟨rfl, rfl⟩

theorem execute_begun (s : Session) (line : Text) (sequence : Int) :
    (s.execute line sequence).1.workPath = (s.begin line).1.workPath ∧
      (s.execute line sequence).1.connection.base = s.connection.base ∧
      (s.execute line sequence).1.connection.sent =
        s.connection.sent ++ (s.begin line).2.requests := by
  rw [execute_eq_begin]
  rcases begin_cases s line with ⟨outcome, h⟩ | ⟨workPath, markup, h⟩ | ⟨call, request, report, h⟩
  · rw [h]
    exact ⟨rfl, rfl, (List.append_nil _).symm⟩
  · rw [h]
    exact ⟨rfl, rfl, (List.append_nil _).symm⟩
  · rw [h]
    obtain ⟨hsent, hbase⟩ := exchange_sent s.connection request
    exact ⟨rfl, hbase, hsent⟩

theorem execute_of_ended {outcome : Except Fault Text} (h : (s.begin line).2 = .ended outcome) :
    (s.execute line sequence).2 = some (.of line sequence outcome) := by
  rw [execute_eq_begin]
  rcases hbegin : s.begin line with ⟨s', opening⟩
  rw [hbegin] at h
  dsimp only at h
  rw [h]

theorem exists_ended {command : Command} (hline : Command.ofLine line = .ok command)
    (hname : command.name ∈ [FileCommand.cd.name, FileCommand.pwd.name]) (s : Session) :
    ∃ outcome, (s.begin line).2 = .ended outcome := by
  unfold begin plan
  rcases hstep : FileCommand.registry.dispatchLine line with fault | ⟨markup⟩ | ⟨name, c, arguments⟩
  · exact ⟨_, rfl⟩
  · exact ⟨_, rfl⟩
  · obtain ⟨command', hcommand, hact⟩ := FileCommand.exists_command hstep
    rw [hline] at hcommand
    cases hcommand
    rw [hact name c arguments rfl] at hname
    cases c with
    | pwd | cd => exact ⟨_, rfl⟩
    | ls | stat | openFile | read | cat | write | rm => exact absurd hname (by decide)

def after (s : Session) (items : List Submission) : Session :=
  items.foldl (fun s item => (s.execute item.line item.sequence).1) s

def requests (s : Session) : List Submission → List (Submission × Request)
  | [] => []
  | item :: rest =>
    let next := (s.execute item.line item.sequence).1
    (next.connection.sent.drop s.connection.sent.length).map (item, ·) ++ next.requests rest

theorem after_concat (s : Session) (items : List Submission) (item : Submission) :
    s.after (items ++ [item]) = ((s.after items).execute item.line item.sequence).1 :=
  List.foldl_append

theorem base_after (s : Session) (items : List Submission) :
    (s.after items).connection.base = s.connection.base := by
  induction items generalizing s with
  | nil => rfl
  | cons item rest ih => exact (ih _).trans (execute_begun s item.line item.sequence).2.1

theorem requests_concat (s : Session) (items : List Submission) (item : Submission) :
    s.requests (items ++ [item]) =
      s.requests items ++ ((s.after items).begin item.line).2.requests.map (item, ·) := by
  induction items generalizing s with
  | nil =>
    have hsent := (execute_begun s item.line item.sequence).2.2
    simp only [List.nil_append, requests, hsent, List.drop_left, List.append_nil]
    rfl
  | cons first rest ih =>
    rw [List.cons_append, requests, requests, ih, List.append_assoc]
    rfl

end RemoteShell.Session
