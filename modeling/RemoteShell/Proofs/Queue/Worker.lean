import RemoteShell.Proofs.Shell

set_option autoImplicit false

namespace RemoteShell.Queue

inductive Worker (τ : Type) where
  | waiting
  | running (item : Submission) (stage : Stage τ)
  /-- The renderer has the result and has not come back. -/
  | rendering
  | rendered

namespace Worker

variable {τ : Type}

def item? : Worker τ → Option Submission
  | .running item _ => some item
  | _ => none

def isBusy : Worker τ → Bool
  | .waiting => false
  | _ => true

theorem countP_isBusy (w : Worker τ) : [w].countP isBusy = w.isBusy.toNat := by
  cases w <;> rfl

theorem item?_of_not_isBusy {w : Worker τ} (h : ¬w.isBusy) : w.item? = none := by
  cases w with
  | waiting => rfl
  | running | rendering | rendered => exact absurd rfl h

end Worker

/-- A shell, its queue, and the results handed to the renderer so far. -/
structure State (σ τ : Type) where
  shared : σ
  history : History
  queue : Queue
  /-- Lines put in and not ticked off. -/
  unfinished : Nat
  workers : List (Worker τ)
  handed : List Result

namespace State

variable {σ τ : Type}

def inFlight (st : State σ τ) : List Submission := st.workers.filterMap Worker.item?

def initial (shared : σ) (history : History) : State σ τ :=
  ⟨shared, history, .empty true, 0, [], []⟩

/-- Starting a worker and its queue; one that is there is kept. -/
def started (st : State σ τ) : State σ τ :=
  if st.workers.isEmpty then
    { st with queue := st.queue.cleared, unfinished := 0, workers := [.waiting] }
  else st

def submitted (st : State σ τ) (line : Text) : State σ τ :=
  let st := { st with history := st.history.append line }.started
  { st with queue := st.queue.submit line, unfinished := st.unfinished + 1 }

end State

inductive Event where
  | start
  | submit (line : Text)
  | take
  | resume
  | hand
  | render (raises : Bool)
  | tick
  | join

def Event.line? : Event → Option Text
  | .submit line => some line
  | _ => none

variable {σ α τ : Type}

inductive Step (sh : Shell σ α τ) : State σ τ → Event → State σ τ → Prop where
  | start (st : State σ τ) : Step sh st .start st.started
  | submit (st : State σ τ) (line : Text) : Step sh st (.submit line) (st.submitted line)
  | take {st : State σ τ} (before after : List (Worker τ)) {item : Submission}
      {rest : List Submission} (hw : st.workers = before ++ .waiting :: after)
      (hq : st.queue.pending = item :: rest) :
      Step sh st .take
        { st with
          queue := { st.queue with pending := rest }
          workers := before ++ .running item (sh.begin item.line) :: after }
  | resume {st : State σ τ} (before after : List (Worker τ)) {item : Submission} {command : τ}
      (hw : st.workers = before ++ .running item (.paused command) :: after) :
      Step sh st .resume
        { st with
          shared := (sh.resume st.shared command).1
          workers := before ++ .running item (sh.resume st.shared command).2 :: after }
  | hand {st : State σ τ} (before after : List (Worker τ)) {item : Submission}
      {outcome : Except Fault Text}
      (hw : st.workers = before ++ .running item (.finished outcome) :: after) :
      Step sh st .hand
        { st with
          workers := before ++ .rendering :: after
          handed := st.handed ++ [.of item.line item.sequence outcome] }
  /-- The renderer comes back or raises; either way the worker goes on. -/
  | render {st : State σ τ} (before after : List (Worker τ))
      (hw : st.workers = before ++ .rendering :: after) (raises : Bool) :
      Step sh st (.render raises) { st with workers := before ++ .rendered :: after }
  | tick {st : State σ τ} (before after : List (Worker τ))
      (hw : st.workers = before ++ .rendered :: after) :
      Step sh st .tick
        { st with unfinished := st.unfinished - 1, workers := before ++ .waiting :: after }
  | join {st : State σ τ} (h : st.unfinished = 0) : Step sh st .join st

inductive Run (sh : Shell σ α τ) (first : State σ τ) : List Event → State σ τ → Prop where
  | nil : Run sh first [] first
  | snoc {events : List Event} {event : Event} {st st' : State σ τ}
      (run : Run sh first events st) (step : Step sh st event st') :
      Run sh first (events ++ [event]) st'

def lines (events : List Event) : List Text := events.filterMap Event.line?

/-- Lines as submissions, numbered from the one after `n`. -/
def numbered (n : Nat) : List Text → List Submission
  | [] => []
  | line :: rest => ⟨n + 1, line⟩ :: numbered (n + 1) rest

theorem numbered_concat (n : Nat) (ls : List Text) (line : Text) :
    numbered n (ls ++ [line]) = numbered n ls ++ [⟨n + ls.length + 1, line⟩] := by
  induction ls generalizing n with
  | nil => rfl
  | cons l ls ih =>
    rw [List.cons_append, numbered, numbered, ih, List.cons_append, List.length_cons]
    congr 4
    omega

theorem numbered_append (n : Nat) (ls more : List Text) :
    numbered n (ls ++ more) = numbered n ls ++ numbered (n + ls.length) more := by
  induction ls generalizing n with
  | nil => rfl
  | cons l ls ih =>
    have hn : n + (l :: ls).length = n + 1 + ls.length := by
      rw [List.length_cons]
      omega
    rw [List.cons_append, numbered, numbered, ih, List.cons_append, hn]

theorem map_line_numbered (n : Nat) (ls : List Text) : (numbered n ls).map (·.line) = ls := by
  induction ls generalizing n with
  | nil => rfl
  | cons l ls ih => rw [numbered, List.map_cons, ih]

theorem length_numbered (n : Nat) (ls : List Text) : (numbered n ls).length = ls.length := by
  rw [← List.length_map (·.line), map_line_numbered]

theorem take_numbered (k n : Nat) (ls : List Text) :
    (numbered n ls).take k = numbered n (ls.take k) := by
  induction ls generalizing k n with
  | nil => simp [numbered]
  | cons l ls ih =>
    cases k with
    | zero => rfl
    | succ k => rw [numbered, List.take_succ_cons, ih, List.take_succ_cons, numbered]

theorem map_sequence_numbered (n : Nat) (ls : List Text) :
    (numbered n ls).map (fun item => (item.sequence : Int)) =
      (List.range ls.length).map fun k : Nat => ((n + k : Nat) : Int) + 1 := by
  induction ls generalizing n with
  | nil => rfl
  | cons l ls ih =>
    rw [numbered, List.map_cons, ih, List.length_cons, List.range_succ_eq_map, List.map_cons,
      List.map_map]
    congr 1
    refine List.map_congr_left fun k _ => ?_
    simp only [Function.comp_apply]
    omega

/-- The shared state is `now`, and was `s` when the worker last took a line: what the rest of that
line comes to from `now` is what all of it comes to from `s`. -/
def Worker.Continues (sh : Shell σ α τ) (s now : σ) : Worker τ → Prop
  | .running item stage =>
    ∀ s' outcome, sh.Runs now stage s' outcome → sh.Runs s (sh.begin item.line) s' outcome
  | _ => now = s

/-- How a state follows from the lines submitted so far: some are executed, from `s₀` to `s`, the
next may be in flight, and the others are queued. -/
structure Follows (sh : Shell σ α τ) (s₀ : σ) (ls : List Text) (st : State σ τ) : Prop where
  lone : st.workers.length ≤ 1
  unstarted : st.workers = [] → st.queue.pending = []
  counted : st.unfinished = st.queue.pending.length + st.workers.countP Worker.isBusy
  submitted : st.queue.submitted = ls.length
  ordered : ∃ done s, sh.ExecutesAll s₀ done s st.handed ∧
    done ++ st.inFlight ++ st.queue.pending = numbered 0 ls ∧
    (st.workers = [] → st.shared = s) ∧ ∀ w ∈ st.workers, w.Continues sh s st.shared

namespace Follows

variable {sh : Shell σ α τ} {s₀ : σ} {ls : List Text} {st : State σ τ}

theorem initial (history : History) : Follows sh s₀ [] (.initial s₀ history) where
  lone := Nat.zero_le 1
  unstarted _ := rfl
  counted := rfl
  submitted := rfl
  ordered := ⟨[], s₀, .nil s₀, rfl, fun _ => rfl, fun _ h => absurd h List.not_mem_nil⟩

theorem of_worker {w : Worker τ} {done : List Submission} {s : σ} (hw : st.workers = [w])
    (counted : st.unfinished = st.queue.pending.length + w.isBusy.toNat)
    (submitted : st.queue.submitted = ls.length) (hd : sh.ExecutesAll s₀ done s st.handed)
    (hitems : done ++ w.item?.toList ++ st.queue.pending = numbered 0 ls)
    (hc : w.Continues sh s st.shared) : Follows sh s₀ ls st where
  lone := by simp [hw]
  unstarted := by simp [hw]
  counted := by rw [hw, Worker.countP_isBusy, counted]
  submitted := submitted
  ordered := by
    refine ⟨done, s, hd, ?_, by simp [hw], by simpa [hw] using hc⟩
    rw [← hitems, State.inFlight, hw]
    cases hi : w.item? <;> simp [hi]

theorem worker {before after : List (Worker τ)} {w : Worker τ} (h : Follows sh s₀ ls st)
    (hw : st.workers = before ++ w :: after) :
    before = [] ∧ after = [] ∧ st.unfinished = st.queue.pending.length + w.isBusy.toNat ∧
      ∃ done s, sh.ExecutesAll s₀ done s st.handed ∧
        done ++ w.item?.toList ++ st.queue.pending = numbered 0 ls ∧
        w.Continues sh s st.shared := by
  have hlone := h.lone
  rw [hw, List.length_append, List.length_cons] at hlone
  obtain rfl : before = [] := List.eq_nil_of_length_eq_zero (by omega)
  obtain rfl : after = [] := List.eq_nil_of_length_eq_zero (by omega)
  obtain ⟨done, s, hd, hitems, _, hc⟩ := h.ordered
  have hcount := h.counted
  rw [hw, List.nil_append, Worker.countP_isBusy] at hcount
  refine ⟨rfl, rfl, hcount, done, s, hd, ?_, hc w (by simp [hw])⟩
  rw [← hitems, State.inFlight, hw]
  cases hi : w.item? <;> simp [hi]

theorem started (h : Follows sh s₀ ls st) : Follows sh s₀ ls st.started := by
  unfold State.started
  split
  · next hempty =>
    have hw : st.workers = [] := List.isEmpty_iff.mp hempty
    obtain ⟨done, s, hd, hitems, hidle, _⟩ := h.ordered
    refine of_worker (w := .waiting) rfl rfl h.submitted hd ?_ (hidle hw)
    simpa [State.inFlight, hw, h.unstarted hw, Worker.item?, cleared] using hitems
  · exact h

theorem workers_started (st : State σ τ) : st.started.workers ≠ [] := by
  unfold State.started
  split
  · simp
  · next h => simpa using h

theorem submit (h : Follows sh s₀ ls st) (line : Text) :
    Follows sh s₀ (ls ++ [line]) (st.submitted line) := by
  have hr : Follows sh s₀ ls { st with history := st.history.append line } :=
    ⟨h.lone, h.unstarted, h.counted, h.submitted, h.ordered⟩
  have hs := hr.started
  have hne := workers_started { st with history := st.history.append line }
  -- From here on it does not matter whether the worker was started just now.
  unfold State.submitted
  generalize State.started _ = now at hs hne
  obtain ⟨done, s, hd, hitems, hidle, hbusy⟩ := hs.ordered
  refine ⟨hs.lone, fun hw => absurd hw hne, ?_, ?_, done, s, hd, ?_, hidle, hbusy⟩
  · simp only [Queue.submit, List.length_append, List.length_singleton, hs.counted]
    omega
  · simp only [Queue.submit, hs.submitted, List.length_append, List.length_singleton]
  · rw [numbered_concat, ← hitems, Nat.zero_add, ← hs.submitted]
    simp only [Queue.submit, State.inFlight, List.append_assoc]

theorem step {st' : State σ τ} {event : Event} (h : Follows sh s₀ ls st)
    (hstep : Step sh st event st') : Follows sh s₀ (ls ++ event.line?.toList) st' := by
  cases hstep with
  | submit line => exact h.submit line
  | start => simp only [Event.line?, Option.toList_none, List.append_nil]; exact h.started
  | join => simp only [Event.line?, Option.toList_none, List.append_nil]; exact h
  | take _ _ hw hq =>
    obtain ⟨rfl, rfl, hcount, done, s, hd, hitems, hnow⟩ := h.worker hw
    simp only [Event.line?, Option.toList_none, List.append_nil]
    refine of_worker rfl ?_ h.submitted hd ?_ ?_
    · rw [hcount, hq]; rfl
    · rw [← hitems, hq]; simp [Worker.item?]
    · intro s' outcome hrun
      exact hnow ▸ hrun
  | resume _ _ hw =>
    obtain ⟨rfl, rfl, hcount, done, s, hd, hitems, hc⟩ := h.worker hw
    simp only [Event.line?, Option.toList_none, List.append_nil]
    refine of_worker rfl hcount h.submitted hd hitems ?_
    intro s' outcome hrun
    exact hc s' outcome (.resumed hrun)
  | hand _ _ hw =>
    obtain ⟨rfl, rfl, hcount, done, s, hd, hitems, hc⟩ := h.worker hw
    simp only [Event.line?, Option.toList_none, List.append_nil]
    -- Nothing of the command is left, so the present state is where all of it leads to from `s`.
    have hx : sh.Executes s _ st.shared _ := ⟨_, hc _ _ (.finished _ _), rfl⟩
    refine of_worker rfl hcount h.submitted (hd.concat hx) ?_ rfl
    rw [← hitems]
    simp [Worker.item?]
  | render _ _ hw raises =>
    obtain ⟨rfl, rfl, hcount, done, s, hd, hitems, hc⟩ := h.worker hw
    simp only [Event.line?, Option.toList_none, List.append_nil]
    exact of_worker rfl hcount h.submitted hd hitems hc
  | tick _ _ hw =>
    obtain ⟨rfl, rfl, hcount, done, s, hd, hitems, hc⟩ := h.worker hw
    simp only [Event.line?, Option.toList_none, List.append_nil]
    refine of_worker rfl ?_ h.submitted hd hitems hc
    simp only [hcount, Worker.isBusy, Bool.toNat_true, Bool.toNat_false, Nat.add_sub_cancel,
      Nat.add_zero]

theorem settled (h : Follows sh s₀ ls st) (hz : st.unfinished = 0) :
    st.queue.pending = [] ∧ st.inFlight = [] := by
  have hcount := h.counted
  rw [hz] at hcount
  constructor
  · exact List.eq_nil_of_length_eq_zero (by omega)
  · rw [State.inFlight, List.filterMap_eq_nil_iff]
    have hidle : st.workers.countP Worker.isBusy = 0 := by omega
    exact fun w hw => Worker.item?_of_not_isBusy (List.countP_eq_zero.mp hidle w hw)

end Follows

theorem lines_concat (events : List Event) (event : Event) :
    lines (events ++ [event]) = lines events ++ event.line?.toList := by
  cases h : event.line? <;> simp [lines, h]

variable {sh : Shell σ α τ} {s₀ : σ} {history : History} {events : List Event} {st : State σ τ}

theorem Run.follows (h : Run sh (.initial s₀ history) events st) :
    Follows sh s₀ (lines events) st := by
  induction h with
  | nil => exact .initial history
  | snoc _ hstep ih => rw [lines_concat]; exact ih.step hstep

theorem Step.settled {st' : State σ τ} {event : Event} (hstep : Step sh st event st')
    (hevent : event.line? = none) (h : st.queue.pending = [] ∧ st.inFlight = []) :
    st'.queue.pending = [] ∧ st'.inFlight = [] := by
  obtain ⟨hp, hf⟩ := h
  cases hstep with
  | submit line => cases hevent
  | start =>
    unfold State.started
    split
    · exact ⟨rfl, rfl⟩
    · exact ⟨hp, hf⟩
  | join => exact ⟨hp, hf⟩
  | take _ _ hw hq => rw [hp] at hq; cases hq
  | resume _ _ hw | hand _ _ hw => simp [State.inFlight, hw, Worker.item?] at hf
  | render _ _ hw _ | tick _ _ hw =>
    refine ⟨hp, ?_⟩
    simpa [State.inFlight, hw, Worker.item?, List.filterMap_cons] using hf

theorem Run.settled (h : Run sh (.initial s₀ history) events st) {before after : List Event}
    (hevents : events = before ++ .join :: after) (hafter : lines after = []) :
    st.queue.pending = [] ∧ st.inFlight = [] := by
  -- The last event is the join itself, or it comes after the join and submits nothing.
  induction h generalizing after with
  | nil => simp at hevents
  | @snoc events event st st' run hstep ih =>
    rcases List.eq_nil_or_concat after with rfl | ⟨after, last, rfl⟩
    · obtain ⟨rfl, hlast⟩ := List.append_inj' hevents rfl
      cases hlast
      cases hstep with
      | join hz => exact run.follows.settled hz
    · rw [List.concat_eq_append, ← List.cons_append, ← List.append_assoc] at hevents
      obtain ⟨rfl, hlast⟩ := List.append_inj' hevents rfl
      cases hlast
      rw [List.concat_eq_append, lines_concat, List.append_eq_nil_iff] at hafter
      have hquiet : event.line? = none := by
        cases hl : event.line? with
        | none => rfl
        | some line =>
          rw [hl] at hafter
          cases hafter.2
      exact hstep.settled hquiet (ih rfl hafter.1)

/-- Whatever the order of the steps, an ordered queue hands out what the submitted lines come to
when they are executed one after another, and a join that has passed its wait has seen them all. -/
theorem Run.refines (h : Run sh (.initial s₀ history) events st) :
    st.inFlight.length ≤ 1 ∧
      st.handed.map (·.sequence) =
        (List.range st.handed.length).map (fun k : Nat => (k : Int) + 1) ∧
      st.handed.map (·.line) ++ st.inFlight.map (·.line) ++ st.queue.pending.map (·.line) =
        lines events ∧
      (∃ s, sh.ExecutesAll s₀ (numbered 0 ((lines events).take st.handed.length)) s st.handed) ∧
      ∀ before after, events = before ++ .join :: after → lines after = [] →
        st.handed.map (·.line) = lines events := by
  obtain ⟨done, s, hd, hitems, -, -⟩ := h.follows.ordered
  have hlength : st.handed.length = done.length := by
    rw [← List.length_map (·.line), hd.lines, List.length_map]
  have hdone : done = numbered 0 ((lines events).take st.handed.length) := by
    rw [← take_numbered, ← hitems, hlength, List.append_assoc, List.take_left]
  have hlines : st.handed.map (·.line) ++ st.inFlight.map (·.line) ++
      st.queue.pending.map (·.line) = lines events := by
    rw [hd.lines, ← List.map_append, ← List.map_append, hitems, map_line_numbered]
  refine ⟨?_, ?_, hlines, ⟨s, hdone ▸ hd⟩, ?_⟩
  · exact Nat.le_trans (List.length_filterMap_le _ _) h.follows.lone
  · rw [hd.sequences, hdone, map_sequence_numbered, ← length_numbered 0, ← hdone, hlength]
    simp only [Nat.zero_add]
  · intro before after hevents hafter
    obtain ⟨hp, hf⟩ := h.settled hevents hafter
    rw [← hlines, hp, hf]
    simp

def rehearsed : List Event :=
  [.submit "boom".toList, .take, .submit "wait 1".toList, .resume, .hand, .render true, .tick,
    .take, .resume, .resume, .hand, .render false, .tick, .join, .start]

theorem Run.refines_rehearsed : ∃ st,
    Run Shell.rehearsal (.initial () (.empty none)) rehearsed st ∧
      st.handed.map (·.isError) = [true, false] ∧
      st.handed.map (·.line) = ["boom".toList, "wait 1".toList] := by
  have first := (Run.nil : Run Shell.rehearsal (.initial () (.empty none)) [] _)
    |>.snoc (.submit _ "boom".toList) |>.snoc (.take [] [] rfl rfl)
    |>.snoc (.submit _ "wait 1".toList) |>.snoc (.resume [] [] rfl) |>.snoc (.hand [] [] rfl)
    |>.snoc (.render [] [] rfl true) |>.snoc (.tick [] [] rfl)
  have second := first
    |>.snoc (.take [] [] rfl rfl) |>.snoc (.resume [] [] rfl) |>.snoc (.resume [] [] rfl)
    |>.snoc (.hand [] [] rfl) |>.snoc (.render [] [] rfl false) |>.snoc (.tick [] [] rfl)
    |>.snoc (.join rfl) |>.snoc (.start _)
  obtain ⟨-, -, -, -, hjoined⟩ := Run.refines second
  exact ⟨_, second, rfl, hjoined (rehearsed.take 13) [.start] rfl rfl⟩

theorem State.handed_started (st : State σ τ) : st.started.handed = st.handed := by
  unfold State.started
  split <;> rfl

theorem State.handed_submitted (st : State σ τ) (line : Text) :
    (st.submitted line).handed = st.handed :=
  State.handed_started { st with history := st.history.append line }

theorem Step.handed_isPrefix {st' : State σ τ} {event : Event} (h : Step sh st event st') :
    st.handed <+: st'.handed := by
  cases h with
  | start => exact (State.handed_started st).symm ▸ List.prefix_rfl
  | submit line => exact (State.handed_submitted st line).symm ▸ List.prefix_rfl
  | hand => exact List.prefix_append _ _
  | take | resume | render | tick | join => exact List.prefix_rfl

theorem Step.history_eq {st' : State σ τ} {event : Event} (h : Step sh st event st') :
    st'.history = event.line?.toList.foldl History.append st.history := by
  cases h with
  | start =>
    unfold State.started
    split <;> rfl
  | submit line =>
    unfold State.submitted State.started
    dsimp only
    split <;> rfl
  | take | resume | hand | render | tick | join => rfl

theorem Run.history_eq (h : Run sh (.initial s₀ history) events st) :
    st.history = (lines events).foldl History.append history := by
  induction h with
  | nil => rfl
  | snoc _ hstep ih => rw [hstep.history_eq, ih, lines_concat, List.foldl_append]

theorem foldl_submit (q : Queue) (ls : List Text) :
    ls.foldl submit q =
      ⟨q.isOrdered, q.submitted + ls.length, q.pending ++ numbered q.submitted ls⟩ := by
  induction ls generalizing q with
  | nil => simp [numbered]
  | cons l ls ih =>
    rw [List.foldl_cons, ih]
    simp only [submit, numbered, List.length_cons, List.append_assoc, List.singleton_append]
    congr 1
    omega

/-- Once a conversation is joined, the lines that were submitted while others were executed are
rendered as if all of them had been waiting and the queue were drained at one go. -/
theorem Run.drained {s₀ : Session} {st : State Session FileRun}
    (h : Run Shell.files (.initial s₀ history) events st) {before after : List Event}
    (hevents : events = before ++ .join :: after) (hafter : lines after = []) :
    ∃ s, ((lines events).foldl submit (.empty true)).drain Interactive.complete s₀ =
      (s, st.handed, true) := by
  obtain ⟨hp, hf⟩ := h.settled hevents hafter
  obtain ⟨done, s, hd, hitems, -, -⟩ := h.follows.ordered
  rw [hp, hf, List.append_nil, List.append_nil] at hitems
  obtain ⟨completions, hrun, hresults⟩ := Shell.executesAll_files_iff_run.mp (hitems ▸ hd)
  refine ⟨s, ?_⟩
  rw [foldl_submit, drain]
  simp only [empty, List.nil_append, hrun, order, if_true, hresults]

end RemoteShell.Queue
