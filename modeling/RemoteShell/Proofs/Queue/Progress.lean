import Mathlib.Algebra.GroupWithZero.Nat
import RemoteShell.Proofs.Queue.Worker
import RemoteShell.Proofs.Session.Effect

set_option autoImplicit false

namespace RemoteShell.Queue

def Event.isWork : Event → Bool
  | .take | .resume | .hand | .render _ | .tick => true
  | .start | .submit _ | .join => false

theorem Event.line?_of_isWork {event : Event} (h : event.isWork = true) : event.line? = none := by
  cases event with
  | submit => cases h
  | start | take | resume | hand | render | tick | join => rfl

namespace Follows

variable {σ α τ : Type} {sh : Shell σ α τ} {s₀ s : σ} {ls : List Text} {st : State σ τ}
  {results : List Result}

theorem exists_work (h : Follows sh s₀ ls st) (hne : st.unfinished ≠ 0) :
    ∃ event st', event.isWork = true ∧ Step sh st event st' := by
  have hcount := h.counted
  have hlone := h.lone
  cases hw : st.workers with
  | nil =>
    rw [hw, h.unstarted hw] at hcount
    exact absurd hcount hne
  | cons w others =>
    cases w with
    | waiting =>
      cases hq : st.queue.pending with
      | nil =>
        simp_all [Worker.isBusy]
      | cons item rest => exact ⟨.take, _, rfl, .take [] others hw hq⟩
    | running item stage =>
      cases stage with
      | paused command => exact ⟨.resume, _, rfl, .resume [] others hw⟩
      | finished outcome => exact ⟨.hand, _, rfl, .hand [] others hw⟩
    | rendering => exact ⟨.render false, _, rfl, .render [] others hw false⟩
    | rendered => exact ⟨.tick, _, rfl, .tick [] others hw⟩

theorem work {st' : State σ τ} {event : Event} (h : Follows sh s₀ ls st)
    (hwork : event.isWork = true) (hstep : Step sh st event st') : Follows sh s₀ ls st' := by
  have hnext := h.step hstep
  rwa [Event.line?_of_isWork hwork, Option.toList_none, List.append_nil] at hnext

/-- With nothing unfinished the worker waits, and every line has been executed. -/
theorem finished (h : Follows sh s₀ ls st) (hz : st.unfinished = 0) :
    sh.ExecutesAll s₀ (numbered 0 ls) st.shared st.handed ∧ ∀ w ∈ st.workers, w = .waiting := by
  obtain ⟨hpending, hflight⟩ := h.settled hz
  have hwaiting : ∀ w ∈ st.workers, w = .waiting := by
    have hcount := h.counted
    rw [hz] at hcount
    have hidle : st.workers.countP Worker.isBusy = 0 := by omega
    intro w hw
    have hbusy := List.countP_eq_zero.mp hidle w hw
    cases w with
    | waiting => rfl
    | running | rendering | rendered => exact absurd rfl hbusy
  refine ⟨?_, hwaiting⟩
  obtain ⟨done, s, hdone, hitems, hnone, hsome⟩ := h.ordered
  rw [hpending, hflight, List.append_nil, List.append_nil] at hitems
  have hshared : st.shared = s := by
    cases hw : st.workers with
    | nil => exact hnone hw
    | cons w others =>
      have hmem : w ∈ st.workers := hw ▸ List.mem_cons_self
      have hc := hsome w hmem
      rw [hwaiting w hmem] at hc
      exact hc
  rw [hshared, ← hitems]
  exact hdone

theorem isPrefix (h : Follows sh s₀ ls st) (more : List Text)
    (hall : sh.ExecutesAll s₀ (numbered 0 (ls ++ more)) s results) : st.handed <+: results := by
  obtain ⟨done, now, hdone, hitems, -, -⟩ := h.ordered
  rw [numbered_append, ← hitems, List.append_assoc, List.append_assoc] at hall
  obtain ⟨_, first, later, hfirst, -, rfl⟩ := hall.exists_append
  obtain ⟨-, rfl⟩ := hdone.unique hfirst
  exact List.prefix_append _ _

end Follows

end RemoteShell.Queue

namespace RemoteShell

/-- The most steps of a worker from a stage of its line on, until it waits again. -/
def Stage.left : Stage FileRun → Nat
  | .paused (.entered _ _) => 5
  | .paused (.asked _) => 4
  | .finished _ => 3

/-- A stage that is not stuck in a wait for a reply. -/
def Stage.IsLive : Stage FileRun → Prop
  | .paused (.asked none) => False
  | _ => True

namespace Shell

theorem begin_files (line : Text) :
    (files.begin line).IsLive ∧ (files.begin line).left ≤ 5 := by
  rcases hline : FileCommand.registry.dispatchLine line with fault | ⟨markup⟩ | ⟨name, c, a⟩
  · have hb : files.begin line = .finished (.error fault) := begin_of_error hline
    rw [hb]
    exact ⟨trivial, Nat.le_add_left 3 2⟩
  · have hb : files.begin line = .finished (.ok markup) := begin_of_say hline
    rw [hb]
    exact ⟨trivial, Nat.le_add_left 3 2⟩
  · have hb : files.begin line = .paused (.entered c a) := begin_of_act hline
    rw [hb]
    exact ⟨trivial, Nat.le_refl 5⟩

theorem resume_files {s : Session} (hs : ∀ x ∈ s.connection.script, x.IsReply)
    {command : FileRun} (hlive : (Stage.paused command).IsLive) :
    (∀ x ∈ (files.resume s command).1.connection.script, x.IsReply) ∧
      (files.resume s command).2.IsLive ∧
      (files.resume s command).2.left < (Stage.paused command).left := by
  cases command with
  | entered c a =>
    obtain ⟨s', outcome, hperform, heffect⟩ := Session.perform_effect hs c a
    simp only [files, FileRun.resume, hperform]
    exact ⟨fun x hx => hs x (heffect.script hx), trivial, Nat.lt_succ_self 4⟩
  | asked reply =>
    cases reply with
    | none => exact hlive.elim
    | some outcome => exact ⟨hs, trivial, Nat.lt_succ_self 3⟩

end Shell

namespace Queue

def Worker.left : Worker FileRun → Nat
  | .waiting => 0
  | .running _ stage => stage.left
  | .rendering => 2
  | .rendered => 1

def State.left (st : State Session FileRun) : Nat :=
  6 * st.queue.pending.length + (st.workers.map Worker.left).sum

structure State.IsLive (st : State Session FileRun) : Prop where
  script : ∀ x ∈ st.shared.connection.script, x.IsReply
  stages : ∀ item stage, .running item stage ∈ st.workers → stage.IsLive

variable {st st' : State Session FileRun}

theorem State.IsLive.started (h : st.IsLive) : st.started.IsLive ∧ st.started.left ≤ st.left := by
  unfold State.started
  split
  · exact ⟨⟨h.script, by simp⟩, by simp [State.left, Queue.cleared, Worker.left]⟩
  · exact ⟨h, Nat.le_refl _⟩

theorem State.IsLive.submitted (h : st.IsLive) (line : Text) :
    (st.submitted line).IsLive ∧ (st.submitted line).left ≤ st.left + 6 := by
  have hrecorded : State.IsLive { st with history := st.history.append line } :=
    ⟨h.script, h.stages⟩
  obtain ⟨hlive, hleft⟩ := hrecorded.started
  unfold State.submitted
  refine ⟨⟨hlive.script, hlive.stages⟩, ?_⟩
  simp only [State.left, Queue.submit, List.length_append, List.length_singleton] at hleft ⊢
  omega

theorem State.IsLive.replace {before after : List (Worker FileRun)} {w w' : Worker FileRun}
    (h : st.IsLive) (hw : st.workers = before ++ w :: after)
    (hw' : st'.workers = before ++ w' :: after)
    (hscript : ∀ x ∈ st'.shared.connection.script, x.IsReply)
    (hstage : ∀ item stage, w' = .running item stage → stage.IsLive)
    (hleft : 6 * st'.queue.pending.length + w'.left < 6 * st.queue.pending.length + w.left) :
    st'.IsLive ∧ st'.left < st.left := by
  refine ⟨⟨hscript, fun item stage hmem => ?_⟩, ?_⟩
  · have hstages := h.stages item stage
    rw [hw] at hstages
    rw [hw', List.mem_append, List.mem_cons] at hmem
    rcases hmem with hmem | heq | hmem
    · exact hstages (List.mem_append_left _ hmem)
    · exact hstage item stage heq.symm
    · exact hstages (List.mem_append_right _ (List.mem_cons_of_mem _ hmem))
  · simp only [State.left, hw, hw', List.map_append, List.map_cons, List.sum_append,
      List.sum_cons]
    omega

/-- Every step of a worker leaves it fewer. -/
theorem Step.left_lt {event : Event} (hstep : Step Shell.files st event st')
    (hwork : event.isWork = true) (h : st.IsLive) : st'.IsLive ∧ st'.left < st.left := by
  cases hstep with
  | start | submit | join => cases hwork
  | @take _ _ item rest hw hq =>
    obtain ⟨hlive, hleft⟩ := Shell.begin_files item.line
    refine h.replace hw rfl h.script ?_ ?_
    · rintro _ _ ⟨⟩
      exact hlive
    · simp only [hq, List.length_cons, Worker.left]
      omega
  | @resume _ _ item command hw =>
    have hcommand := h.stages item (.paused command) (by simp [hw])
    obtain ⟨hscript, hlive, hleft⟩ := Shell.resume_files h.script hcommand
    refine h.replace hw rfl hscript ?_ ?_
    · rintro _ _ ⟨⟩
      exact hlive
    · simpa only [Worker.left, Nat.add_lt_add_iff_left] using hleft
  | hand _ _ hw => exact h.replace hw rfl h.script nofun (by simp [Worker.left, Stage.left])
  | render _ _ hw => exact h.replace hw rfl h.script nofun (by simp [Worker.left])
  | tick _ _ hw => exact h.replace hw rfl h.script nofun (by simp [Worker.left])

end Queue

end RemoteShell
