import Mathlib.Data.List.Nodup
import RemoteShell.Proofs.Queue.Worker
import RemoteShell.Proofs.Session.Opening

/-! The tasks of an unordered queue over the commands on files. Each line has a task of its own;
tasks first run in the order of their lines, are interrupted only where they wait for a reply, and
get the replies in any order. They share one working path, and still send what the lines would send
one after another. -/

set_option autoImplicit false

namespace RemoteShell.Queue.Tasks

inductive Task where
  | waiting (item : Submission) (call : Call) (request : Request)
      (report : Response → Except Fault Text)
  /-- Its result was handed over, whatever the renderer made of that. -/
  | finished

def Task.item? : Task → Option Submission
  | .waiting item .. => some item
  | .finished => none

/-- Pending lines of the queue are those whose tasks have not run yet. -/
structure State where
  session : Session
  history : History
  queue : Queue
  tasks : List Task
  sent : List (Submission × Request)
  handed : List Result

def State.initial (s : Session) (history : History) : State :=
  ⟨s, history, .empty false, [], [], []⟩

def State.waiting (st : State) : List Submission := st.tasks.filterMap Task.item?

inductive Event where
  | submit (line : Text)
  | begin
  | reply (reply : Reply)
  | discard
  | join

def Event.line? : Event → Option Text
  | .submit line => some line
  | _ => none

def lines (events : List Event) : List Text := events.filterMap Event.line?

inductive Step : State → Event → State → Prop where
  | submit (st : State) (line : Text) :
      Step st (.submit line)
        { st with history := st.history.append line, queue := st.queue.submit line }
  | ended {st : State} {item : Submission} {rest : List Submission} {outcome : Except Fault Text}
      (hq : st.queue.pending = item :: rest)
      (ho : (st.session.begin item.line).2 = .ended outcome) :
      Step st .begin
        { st with
          session := (st.session.begin item.line).1
          queue := { st.queue with pending := rest }
          tasks := st.tasks ++ [.finished]
          handed := st.handed ++ [.of item.line item.sequence outcome] }
  | asked {st : State} {item : Submission} {rest : List Submission} {call : Call}
      {request : Request} {report : Response → Except Fault Text}
      (hq : st.queue.pending = item :: rest)
      (ho : (st.session.begin item.line).2 = .asks call request report) :
      Step st .begin
        { st with
          session := (st.session.begin item.line).1
          queue := { st.queue with pending := rest }
          tasks := st.tasks ++ [.waiting item call request report]
          sent := st.sent ++ [(item, request)] }
  /-- Any reply comes to any of the tasks that wait. -/
  | replied {st : State} (before after : List Task) {item : Submission} {call : Call}
      {request : Request} {report : Response → Except Fault Text}
      (ht : st.tasks = before ++ .waiting item call request report :: after) (reply : Reply) :
      Step st (.reply reply)
        { st with
          tasks := before ++ .finished :: after
          handed := st.handed ++
            [.of item.line item.sequence (Session.Opening.replied call request report reply)] }
  | discard {st : State} (before after : List Task) (ht : st.tasks = before ++ .finished :: after) :
      Step st .discard { st with tasks := before ++ after }
  | join {st : State} (hq : st.queue.pending = []) (ht : st.tasks = []) : Step st .join st

inductive Run (first : State) : List Event → State → Prop where
  | nil : Run first [] first
  | snoc {events : List Event} {event : Event} {st st' : State}
      (run : Run first events st) (step : Step st event st') : Run first (events ++ [event]) st'

/-- A result of one of the submissions that were begun. Where the line ends without a request when
it is executed after those before it, the result is the same. -/
def Answers (s₀ : Session) (begun : List Submission) (r : Result) : Prop :=
  ∃ before item after, begun = before ++ item :: after ∧ r.line = item.line ∧
    r.sequence = item.sequence ∧
    ∀ outcome, ((s₀.after before).begin item.line).2 = .ended outcome →
      r = .of item.line item.sequence outcome

/-- A task that waits has the request that its line has after those before it. -/
def Awaits (s₀ : Session) (begun : List Submission) : Task → Prop
  | .waiting item call request report => ∃ before after, begun = before ++ item :: after ∧
      ((s₀.after before).begin item.line).2 = .asks call request report
  | .finished => True

variable {s₀ : Session} {begun : List Submission} {item : Submission}

theorem Answers.concat {r : Result} (h : Answers s₀ begun r) (item : Submission) :
    Answers s₀ (begun ++ [item]) r := by
  obtain ⟨before, other, after, rfl, hr⟩ := h
  exact ⟨before, other, after ++ [item], by simp, hr⟩

theorem Awaits.concat {task : Task} (h : Awaits s₀ begun task) (item : Submission) :
    Awaits s₀ (begun ++ [item]) task := by
  cases task with
  | finished => trivial
  | waiting other call request report =>
    obtain ⟨before, after, rfl, ho⟩ := h
    exact ⟨before, after ++ [item], by simp, ho⟩

/-- How a state follows from some submissions that were begun, in their order: what was read of the
session and sent is as if each had been executed before the next. -/
structure Follows (s₀ : Session) (begun : List Submission) (st : State) : Prop where
  path : st.session.workPath = (s₀.after begun).workPath
  base : st.session.connection.base = s₀.connection.base
  sent : st.sent = s₀.requests begun
  shared : (st.handed.map (·.sequence) ++ st.waiting.map fun item => (item.sequence : Int)).Perm
    (begun.map fun item => (item.sequence : Int))
  awaited : ∀ task ∈ st.tasks, Awaits s₀ begun task
  answered : ∀ r ∈ st.handed, Answers s₀ begun r

namespace Follows

variable {st : State}

theorem initial (s₀ : Session) (history : History) : Follows s₀ [] (.initial s₀ history) where
  path := rfl
  base := rfl
  sent := rfl
  shared := .nil
  awaited := by simp [State.initial]
  answered := by simp [State.initial]

/-- The next line to begin finds the session as it does after the lines before it. -/
theorem begin_eq (h : Follows s₀ begun st) (line : Text) :
    (st.session.begin line).1.workPath = ((s₀.after begun).begin line).1.workPath ∧
      (st.session.begin line).2 = ((s₀.after begun).begin line).2 :=
  Session.begin_congr h.path (h.base.trans (Session.base_after s₀ begun).symm) line

theorem concat (h : Follows s₀ begun st) (item : Submission) :
    (st.session.begin item.line).1.workPath = (s₀.after (begun ++ [item])).workPath ∧
      (st.session.begin item.line).1.connection.base = s₀.connection.base ∧
      st.sent ++ (st.session.begin item.line).2.requests.map (item, ·) =
        s₀.requests (begun ++ [item]) := by
  obtain ⟨hpath, hopening⟩ := h.begin_eq item.line
  refine ⟨?_, (Session.base_begin _ _).trans h.base, ?_⟩
  · rw [hpath, Session.after_concat, (Session.execute_begun _ _ _).1]
  · rw [hopening, Session.requests_concat, h.sent]

theorem ended (h : Follows s₀ begun st) {outcome : Except Fault Text}
    (ho : (st.session.begin item.line).2 = .ended outcome) (queue : Queue) :
    Follows s₀ (begun ++ [item])
      { st with
        session := (st.session.begin item.line).1
        queue := queue
        tasks := st.tasks ++ [.finished]
        handed := st.handed ++ [.of item.line item.sequence outcome] } := by
  obtain ⟨hpath, hbase, hsent⟩ := h.concat item
  rw [ho] at hsent
  refine ⟨hpath, hbase, by simpa [Session.Opening.requests] using hsent, ?_, ?_, ?_⟩
  · have hshared := h.shared
    rw [List.perm_iff_count] at hshared ⊢
    intro n
    have hcount := hshared n
    simp [State.waiting, Task.item?, List.filterMap_cons, List.count_cons] at hcount ⊢
    omega
  · intro task htask
    rcases List.mem_append.mp htask with htask | htask
    · exact (h.awaited task htask).concat item
    · rw [List.mem_singleton.mp htask]
      trivial
  · intro r hr
    rcases List.mem_append.mp hr with hr | hr
    · exact (h.answered r hr).concat item
    · rw [List.mem_singleton.mp hr]
      refine ⟨begun, item, [], rfl, Shell.line_of .., Shell.sequence_of .., fun other hother => ?_⟩
      rw [← (h.begin_eq item.line).2, ho] at hother
      cases hother
      rfl

theorem asked (h : Follows s₀ begun st) {call : Call} {request : Request}
    {report : Response → Except Fault Text}
    (ho : (st.session.begin item.line).2 = .asks call request report) (queue : Queue) :
    Follows s₀ (begun ++ [item])
      { st with
        session := (st.session.begin item.line).1
        queue := queue
        tasks := st.tasks ++ [.waiting item call request report]
        sent := st.sent ++ [(item, request)] } := by
  obtain ⟨hpath, hbase, hsent⟩ := h.concat item
  rw [ho] at hsent
  refine ⟨hpath, hbase, hsent, ?_, ?_, fun r hr => (h.answered r hr).concat item⟩
  · have hshared := h.shared
    rw [List.perm_iff_count] at hshared ⊢
    intro n
    have hcount := hshared n
    simp [State.waiting, Task.item?] at hcount ⊢
    omega
  · intro task htask
    rcases List.mem_append.mp htask with htask | htask
    · exact (h.awaited task htask).concat item
    · rw [List.mem_singleton.mp htask]
      exact ⟨begun, [], rfl, (h.begin_eq item.line).2 ▸ ho⟩

theorem replied (h : Follows s₀ begun st) {before after : List Task} {call : Call}
    {request : Request} {report : Response → Except Fault Text}
    (ht : st.tasks = before ++ .waiting item call request report :: after)
    (outcome : Except Fault Text) :
    Follows s₀ begun
      { st with
        tasks := before ++ .finished :: after
        handed := st.handed ++ [.of item.line item.sequence outcome] } := by
  refine ⟨h.path, h.base, h.sent, ?_, ?_, ?_⟩
  · have hshared := h.shared
    rw [List.perm_iff_count] at hshared ⊢
    intro n
    have hcount := hshared n
    simp [State.waiting, ht, Task.item?, List.filterMap_cons, List.count_cons] at hcount ⊢
    omega
  · intro task htask
    rcases List.mem_append.mp htask with htask | htask
    · exact h.awaited task (ht ▸ List.mem_append_left _ htask)
    · rcases List.mem_cons.mp htask with rfl | htask
      · trivial
      · exact h.awaited task (ht ▸ List.mem_append_right _ (List.mem_cons_of_mem _ htask))
  · intro r hr
    rcases List.mem_append.mp hr with hr | hr
    · exact h.answered r hr
    · rw [List.mem_singleton.mp hr]
      have hwaits := h.awaited _ (ht ▸ List.mem_append_right _ List.mem_cons_self)
      obtain ⟨first, last, hbegun, hasks⟩ := hwaits
      refine ⟨first, item, last, hbegun, Shell.line_of .., Shell.sequence_of .., fun other ho => ?_⟩
      -- A line that has a request does not end without one.
      rw [hasks] at ho
      cases ho

theorem discard (h : Follows s₀ begun st) {before after : List Task}
    (ht : st.tasks = before ++ .finished :: after) :
    Follows s₀ begun { st with tasks := before ++ after } := by
  refine ⟨h.path, h.base, h.sent, ?_, ?_, h.answered⟩
  · have hshared := h.shared
    simpa [State.waiting, ht, Task.item?, List.filterMap_cons] using hshared
  · intro task htask
    refine h.awaited task (ht ▸ ?_)
    simp only [List.mem_append, List.mem_cons] at htask ⊢
    exact htask.imp_right .inr

end Follows

/-- The submissions so far: some were begun, and the others are pending. -/
def Accounts (s₀ : Session) (ls : List Text) (st : State) : Prop :=
  st.queue.submitted = ls.length ∧
    ∃ begun, begun ++ st.queue.pending = numbered 0 ls ∧ Follows s₀ begun st

theorem Accounts.step {ls : List Text} {st st' : State} {event : Event}
    (h : Accounts s₀ ls st) (hstep : Step st event st') :
    Accounts s₀ (ls ++ event.line?.toList) st' := by
  obtain ⟨hcount, begun, hitems, hfollows⟩ := h
  cases hstep with
  | submit line =>
    refine ⟨by simp [Queue.submit, Event.line?, hcount], begun, ?_, ?_⟩
    · simp only [Queue.submit, Event.line?, Option.toList_some, numbered_concat, ← hitems, hcount,
        Nat.zero_add, List.append_assoc]
    · exact ⟨hfollows.path, hfollows.base, hfollows.sent, hfollows.shared, hfollows.awaited,
        hfollows.answered⟩
  | @ended item rest _ hq ho =>
    rw [hq] at hitems
    refine ⟨by simpa [Event.line?] using hcount, begun ++ [item], ?_, hfollows.ended ho _⟩
    simpa [Event.line?] using hitems
  | @asked item rest _ _ _ hq ho =>
    rw [hq] at hitems
    refine ⟨by simpa [Event.line?] using hcount, begun ++ [item], ?_, hfollows.asked ho _⟩
    simpa [Event.line?] using hitems
  | replied _ _ ht reply =>
    refine ⟨by simpa [Event.line?] using hcount, begun, ?_, hfollows.replied ht _⟩
    simpa [Event.line?] using hitems
  | discard _ _ ht =>
    refine ⟨by simpa [Event.line?] using hcount, begun, ?_, hfollows.discard ht⟩
    simpa [Event.line?] using hitems
  | join hq ht =>
    refine ⟨by simpa [Event.line?] using hcount, begun, ?_, hfollows⟩
    simpa [Event.line?] using hitems

theorem lines_snoc (events : List Event) (event : Event) :
    lines (events ++ [event]) = lines events ++ event.line?.toList := by
  cases h : event.line? <;> simp [lines, h]

variable {history : History} {events : List Event} {st : State}

theorem Run.accounts (h : Run (.initial s₀ history) events st) : Accounts s₀ (lines events) st := by
  induction h with
  | nil => exact ⟨rfl, [], rfl, .initial s₀ history⟩
  | snoc _ hstep ih =>
    rw [lines_snoc]
    exact ih.step hstep

theorem Step.eq_of_idle {st' : State} {event : Event} (h : Step st event st')
    (hevent : event.line? = none) (hq : st.queue.pending = []) (ht : st.tasks = []) : st' = st := by
  cases h with
  | submit line => cases hevent
  | ended hq' | asked hq' =>
    rw [hq] at hq'
    cases hq'
  | replied _ _ ht' | discard _ _ ht' =>
    rw [ht] at ht'
    exact absurd ht'.symm (by simp)
  | join => rfl

theorem Run.idle (h : Run (.initial s₀ history) events st) {before after : List Event}
    (hevents : events = before ++ .join :: after) (hafter : lines after = []) :
    st.queue.pending = [] ∧ st.tasks = [] := by
  -- The last event is the join itself, or it comes after the join and submits nothing.
  induction h generalizing after with
  | nil => simp at hevents
  | @snoc events event st st' run hstep ih =>
    rcases List.eq_nil_or_concat after with rfl | ⟨after, last, rfl⟩
    · obtain ⟨-, hlast⟩ := List.append_inj' hevents rfl
      cases hlast
      cases hstep with
      | join hq ht => exact ⟨hq, ht⟩
    · rw [List.concat_eq_append, ← List.cons_append, ← List.append_assoc] at hevents
      obtain ⟨rfl, hlast⟩ := List.append_inj' hevents rfl
      cases hlast
      rw [List.concat_eq_append, lines_snoc, List.append_eq_nil_iff] at hafter
      obtain ⟨hq, ht⟩ := ih rfl hafter.1
      rw [hstep.eq_of_idle (by simpa using hafter.2) hq ht]
      exact ⟨hq, ht⟩

/-- In whatever order the replies come and whatever they are, no line is handed over twice, each
begun line has sent what it sends when the lines are executed one after another, and the working
path is the one that it is then. A line that moves or names the working path, or sends nothing, has
the result that it has then, and a join that has passed has seen every line. -/
theorem Run.agrees (h : Run (.initial s₀ history) events st) :
    (st.handed.map (·.sequence)).Nodup ∧
      (∀ r ∈ st.handed, ∃ before item after, numbered 0 (lines events) = before ++ item :: after ∧
        r.line = item.line ∧ r.sequence = item.sequence ∧
        ((∃ command, Command.ofLine item.line = .ok command ∧
            command.name ∈ [FileCommand.cd.name, FileCommand.pwd.name]) ∨
          ((s₀.after before).execute item.line item.sequence).1.connection.sent =
            (s₀.after before).connection.sent →
          ((s₀.after before).execute item.line item.sequence).2 = some r)) ∧
      (∃ begun, begun ++ st.queue.pending = numbered 0 (lines events) ∧
        st.sent = s₀.requests begun ∧ st.session.workPath = (s₀.after begun).workPath) ∧
      ∀ before after, events = before ++ .join :: after → lines after = [] →
        st.sent = s₀.requests (numbered 0 (lines events)) ∧
          st.session.workPath = (s₀.after (numbered 0 (lines events))).workPath ∧
          (st.handed.map (·.sequence)).Perm
            ((List.range (lines events).length).map fun k : Nat => (k : Int) + 1) := by
  obtain ⟨-, begun, hitems, hfollows⟩ := h.accounts
  have hsequences := map_sequence_numbered 0 (lines events)
  simp only [Nat.zero_add] at hsequences
  refine ⟨?_, ?_, ⟨begun, hitems, hfollows.sent, hfollows.path⟩, ?_⟩
  · have hdistinct : (begun.map fun item => (item.sequence : Int)).Nodup := by
      have hall : ((numbered 0 (lines events)).map fun item => (item.sequence : Int)).Nodup := by
        rw [hsequences]
        refine List.nodup_range.map fun m n h => ?_
        have hsucc : (m : Int) + 1 = n + 1 := h
        omega
      rw [← hitems, List.map_append] at hall
      exact (List.nodup_append.mp hall).1
    exact (List.nodup_append.mp (hfollows.shared.nodup_iff.mpr hdistinct)).1
  · intro r hr
    obtain ⟨before, item, after, rfl, hline, hsequence, hended⟩ := hfollows.answered r hr
    refine ⟨before, item, after ++ st.queue.pending, by simp [← hitems], hline, hsequence, ?_⟩
    intro hlocal
    have hopening : ∃ outcome, ((s₀.after before).begin item.line).2 = .ended outcome := by
      rcases hlocal with ⟨command, hcommand, hname⟩ | hsilent
      · exact Session.exists_ended hcommand hname _
      · rw [(Session.execute_begun _ _ _).2.2] at hsilent
        cases ho : ((s₀.after before).begin item.line).2 with
        | ended outcome => exact ⟨outcome, rfl⟩
        | asks => simp [ho, Session.Opening.requests] at hsilent
    obtain ⟨outcome, ho⟩ := hopening
    rw [Session.execute_of_ended ho, hended outcome ho]
  · intro before after hevents hafter
    obtain ⟨hq, ht⟩ := h.idle hevents hafter
    rw [hq, List.append_nil] at hitems
    rw [← hitems]
    refine ⟨hfollows.sent, hfollows.path, ?_⟩
    have hshared := hfollows.shared
    rw [hitems, hsequences] at hshared
    simpa [State.waiting, ht] using hshared

def shuffled : List Event :=
  [.submit "cat x".toList, .submit "cd a".toList, .begin, .begin, .submit "write y z".toList,
    .begin, .submit "pwd".toList, .begin, .reply (.answered (.ofText 403 "no".toList)), .discard,
    .reply (.answered (.ofText 200 "text".toList)), .discard, .discard, .discard, .join]

theorem Run.agrees_shuffled : ∃ st,
    Run (.initial (.start .inMemory [] ['/']) (.empty none)) shuffled st ∧
      st.handed.map (·.sequence) = [2, 4, 3, 1] ∧ st.session.workPath = "/a/".toList ∧
      st.sent.map (fun sent => (sent.1.sequence, sent.2.url.path)) =
        [(1, "/x".toList), (3, "/a/y".toList)] := by
  have begun := (Run.nil : Run (.initial (.start .inMemory [] ['/']) (.empty none)) [] _)
    |>.snoc (.submit _ "cat x".toList) |>.snoc (.submit _ "cd a".toList)
    |>.snoc (.asked rfl rfl) |>.snoc (.ended rfl rfl)
    |>.snoc (.submit _ "write y z".toList) |>.snoc (.asked rfl rfl)
    |>.snoc (.submit _ "pwd".toList) |>.snoc (.ended rfl rfl)
  have run := begun
    |>.snoc (.replied [_, .finished] [.finished] rfl (.answered (.ofText 403 "no".toList)))
    |>.snoc (.discard [_] [_, _] rfl)
    |>.snoc (.replied [] [.finished, .finished] rfl (.answered (.ofText 200 "text".toList)))
    |>.snoc (.discard [] [_, _] rfl) |>.snoc (.discard [] [_] rfl) |>.snoc (.discard [] [] rfl)
    |>.snoc (.join rfl rfl)
  obtain ⟨-, -, -, hjoined⟩ := Run.agrees run
  obtain ⟨hsent, hpath, -⟩ := hjoined (shuffled.take 14) [] rfl rfl
  refine ⟨_, run, rfl, hpath.trans rfl, ?_⟩
  rw [hsent]
  rfl

end RemoteShell.Queue.Tasks
