import RemoteShell.Interactive
import RemoteShell.Rehearsal

set_option autoImplicit false

namespace RemoteShell

inductive Stage (τ : Type) where
  | paused (command : τ)
  | finished (outcome : Except Fault Text)

/-- A registry with the code of its commands. A command may be resumed without end. -/
structure Shell (σ α τ : Type) where
  registry : Registry α
  enter : α → Arguments → τ
  resume : σ → τ → σ × Stage τ

namespace Shell

variable {σ α τ : Type} {sh : Shell σ α τ}

/-- What a line comes to before any command code has run. -/
def begin (sh : Shell σ α τ) (line : Text) : Stage τ :=
  match sh.registry.dispatchLine line with
  | .error fault => .finished (.error fault)
  | .ok (.say markup) => .finished (.ok markup)
  | .ok (.act _ a arguments) => .paused (sh.enter a arguments)

theorem begin_of_error {line : Text} {fault : Fault}
    (h : sh.registry.dispatchLine line = .error fault) :
    sh.begin line = .finished (.error fault) := by
  simp only [begin, h]

theorem begin_of_say {line markup : Text}
    (h : sh.registry.dispatchLine line = .ok (.say markup)) :
    sh.begin line = .finished (.ok markup) := by
  simp only [begin, h]

theorem begin_of_act {line name : Text} {a : α} {arguments : Arguments}
    (h : sh.registry.dispatchLine line = .ok (.act name a arguments)) :
    sh.begin line = .paused (sh.enter a arguments) := by
  simp only [begin, h]

/-- Running from a stage to the end, with nothing else in between. -/
inductive Runs (sh : Shell σ α τ) : σ → Stage τ → σ → Except Fault Text → Prop where
  | finished (s : σ) (outcome : Except Fault Text) : Runs sh s (.finished outcome) s outcome
  | resumed {s s' : σ} {command : τ} {outcome : Except Fault Text}
      (rest : Runs sh (sh.resume s command).1 (sh.resume s command).2 s' outcome) :
      Runs sh s (.paused command) s' outcome

theorem runs_finished {s s' : σ} {o o' : Except Fault Text} :
    sh.Runs s (.finished o) s' o' ↔ s' = s ∧ o' = o := by
  constructor
  · intro h
    cases h
    exact ⟨rfl, rfl⟩
  · rintro ⟨rfl, rfl⟩
    exact .finished _ _

def Executes (sh : Shell σ α τ) (s : σ) (item : Submission) (s' : σ) (result : Result) : Prop :=
  ∃ outcome, sh.Runs s (sh.begin item.line) s' outcome ∧
    result = .of item.line item.sequence outcome

inductive ExecutesAll (sh : Shell σ α τ) : σ → List Submission → σ → List Result → Prop where
  | nil (s : σ) : ExecutesAll sh s [] s []
  | cons {s s' s'' : σ} {item : Submission} {rest : List Submission} {result : Result}
      {results : List Result} (first : sh.Executes s item s' result)
      (more : ExecutesAll sh s' rest s'' results) :
      ExecutesAll sh s (item :: rest) s'' (result :: results)

theorem Runs.unique {s s₁ s₂ : σ} {stage : Stage τ} {o₁ o₂ : Except Fault Text}
    (h₁ : sh.Runs s stage s₁ o₁) (h₂ : sh.Runs s stage s₂ o₂) : s₁ = s₂ ∧ o₁ = o₂ := by
  induction h₁ with
  | finished s outcome => cases h₂; exact ⟨rfl, rfl⟩
  | resumed _ ih =>
    cases h₂ with
    | resumed rest => exact ih rest

theorem Executes.unique {s s₁ s₂ : σ} {item : Submission} {r₁ r₂ : Result}
    (h₁ : sh.Executes s item s₁ r₁) (h₂ : sh.Executes s item s₂ r₂) : s₁ = s₂ ∧ r₁ = r₂ := by
  obtain ⟨o₁, hr₁, rfl⟩ := h₁
  obtain ⟨o₂, hr₂, rfl⟩ := h₂
  obtain ⟨hs, ho⟩ := hr₁.unique hr₂
  exact ⟨hs, by rw [ho]⟩

theorem ExecutesAll.unique {s s₁ s₂ : σ} {items : List Submission} {rs₁ rs₂ : List Result}
    (h₁ : sh.ExecutesAll s items s₁ rs₁) (h₂ : sh.ExecutesAll s items s₂ rs₂) :
    s₁ = s₂ ∧ rs₁ = rs₂ := by
  induction h₁ generalizing rs₂ with
  | nil s => cases h₂; exact ⟨rfl, rfl⟩
  | cons first _ ih =>
    cases h₂ with
    | cons first' more =>
      obtain ⟨rfl, rfl⟩ := first.unique first'
      obtain ⟨rfl, rfl⟩ := ih more
      exact ⟨rfl, rfl⟩

theorem ExecutesAll.concat {s s' s'' : σ} {items : List Submission} {results : List Result}
    {item : Submission} {result : Result} (h : sh.ExecutesAll s items s' results)
    (last : sh.Executes s' item s'' result) :
    sh.ExecutesAll s (items ++ [item]) s'' (results ++ [result]) := by
  induction h with
  | nil s => exact .cons last (.nil _)
  | cons first _ ih => exact .cons first (ih last)

theorem ExecutesAll.exists_append {s s'' : σ} {before after : List Submission}
    {results : List Result} (h : sh.ExecutesAll s (before ++ after) s'' results) :
    ∃ s' first more, sh.ExecutesAll s before s' first ∧ sh.ExecutesAll s' after s'' more ∧
      results = first ++ more := by
  induction before generalizing s results with
  | nil => exact ⟨s, [], results, .nil s, h, rfl⟩
  | cons item before ih =>
    cases h with
    | cons first rest =>
      obtain ⟨s', handed, more, hbefore, hafter, rfl⟩ := ih rest
      exact ⟨s', _ :: handed, more, .cons first hbefore, hafter, rfl⟩

@[simp]
theorem line_of (line : Text) (sequence : Int) (outcome : Except Fault Text) :
    (Result.of line sequence outcome).line = line := by
  cases outcome <;> rfl

@[simp]
theorem sequence_of (line : Text) (sequence : Int) (outcome : Except Fault Text) :
    (Result.of line sequence outcome).sequence = sequence := by
  cases outcome <;> rfl

theorem ExecutesAll.lines {s s' : σ} {items : List Submission} {results : List Result}
    (h : sh.ExecutesAll s items s' results) : results.map (·.line) = items.map (·.line) := by
  induction h with
  | nil s => rfl
  | cons first _ ih =>
    obtain ⟨outcome, _, rfl⟩ := first
    rw [List.map_cons, List.map_cons, ih, line_of]

theorem ExecutesAll.sequences {s s' : σ} {items : List Submission} {results : List Result}
    (h : sh.ExecutesAll s items s' results) :
    results.map (·.sequence) = items.map fun item => (item.sequence : Int) := by
  induction h with
  | nil s => rfl
  | cons first _ ih =>
    obtain ⟨outcome, _, rfl⟩ := first
    rw [List.map_cons, List.map_cons, ih, sequence_of]

theorem executesAll_iff_run {step : σ → Submission → σ × Option Completion}
    (hstep : ∀ s item s' r, sh.Executes s item s' r ↔ ∃ t, step s item = (s', some ⟨t, r⟩))
    {s s' : σ} {items : List Submission} {results : List Result} :
    sh.ExecutesAll s items s' results ↔
      ∃ done, Queue.run step s items = (s', done, true) ∧ done.map (·.result) = results := by
  constructor
  · intro h
    induction h with
    | nil s => exact ⟨[], rfl, rfl⟩
    | cons first _ ih =>
      obtain ⟨t, ht⟩ := (hstep _ _ _ _).mp first
      obtain ⟨done, hd, rfl⟩ := ih
      exact ⟨⟨t, _⟩ :: done, by rw [Queue.run, ht]; simp only [hd], rfl⟩
  · induction items generalizing s results with
    | nil =>
      rintro ⟨done, hd, rfl⟩
      cases hd
      exact .nil _
    | cons item rest ih =>
      rintro ⟨done, hd, rfl⟩
      rw [Queue.run] at hd
      split at hd
      · simp at hd
      · next s₁ c hc =>
        rcases hrest : Queue.run step s₁ rest with ⟨s₂, more, ok⟩
        rw [hrest] at hd
        simp only [Prod.mk.injEq] at hd
        obtain ⟨rfl, rfl, rfl⟩ := hd
        exact .cons ((hstep _ _ _ _).mpr ⟨c.ticks, hc⟩) (ih ⟨more, hrest, rfl⟩)

end Shell

/-- A file command that has not looked at the session yet, or whose request is on its way. A reply
that was broken off never comes. -/
inductive FileRun where
  | entered (c : FileCommand) (arguments : Arguments)
  | asked (outcome : Option (Except Fault Text))

namespace FileRun

def resume (s : Session) : FileRun → Session × Stage FileRun
  | .entered c arguments =>
    let (s, outcome) := s.perform (c.plan s.workPath arguments)
    (s, .paused (.asked outcome))
  | .asked (some outcome) => (s, .finished outcome)
  | .asked none => (s, .paused (.asked none))

end FileRun

namespace Shell

def files : Shell Session FileCommand FileRun := ⟨FileCommand.registry, .entered, FileRun.resume⟩

theorem not_runs_asked_none {s s' : Session} {outcome : Except Fault Text} :
    ¬files.Runs s (.paused (.asked none)) s' outcome := by
  intro h
  generalize hstage : Stage.paused (FileRun.asked none) = stage at h
  induction h with
  | finished s outcome => cases hstage
  | resumed _ ih => cases hstage; exact ih rfl

theorem runs_asked {s s' : Session} {reply : Option (Except Fault Text)}
    {outcome : Except Fault Text} :
    files.Runs s (.paused (.asked reply)) s' outcome ↔ s' = s ∧ reply = some outcome := by
  constructor
  · intro h
    cases reply with
    | none => exact absurd h not_runs_asked_none
    | some reply =>
      cases h with
      | resumed rest => cases rest; exact ⟨rfl, rfl⟩
  · rintro ⟨rfl, rfl⟩
    exact .resumed (.finished _ _)

theorem runs_entered {s s' : Session} {c : FileCommand} {arguments : Arguments}
    {outcome : Except Fault Text} :
    files.Runs s (.paused (.entered c arguments)) s' outcome ↔
      s.perform (c.plan s.workPath arguments) = (s', some outcome) := by
  constructor
  · intro h
    cases h with
    | resumed rest =>
      obtain ⟨rfl, ho⟩ := runs_asked.mp rest
      rw [← ho]
      rfl
  · intro h
    refine .resumed ?_
    simp only [files, FileRun.resume, h]
    exact .resumed (.finished _ _)

/-- Executing a line of a session, pauses or not, is one and the same. -/
theorem executes_files (s : Session) (item : Submission) (s' : Session) (result : Result) :
    files.Executes s item s' result ↔
      s.execute item.line item.sequence = (s', some result) := by
  rcases hline : FileCommand.registry.dispatchLine item.line with fault | ⟨markup⟩ | ⟨name, c, a⟩
  · have hb : files.begin item.line = .finished (.error fault) := begin_of_error hline
    simp only [Executes, hb, runs_finished, Session.execute, Session.plan, hline, Except.map]
    grind
  · have hb : files.begin item.line = .finished (.ok markup) := begin_of_say hline
    simp only [Executes, hb, runs_finished, Session.execute, Session.plan, hline, Except.map,
      Session.perform]
    grind
  · have hb : files.begin item.line = .paused (.entered c a) := begin_of_act hline
    simp only [Executes, hb, runs_entered, Session.execute, Session.plan, hline, Except.map]
    rcases s.perform (c.plan s.workPath a) with ⟨s₁, _ | outcome⟩
    · simp
    · simp only [Prod.mk.injEq, Option.map_some, Option.some.injEq]
      grind

/-- Draining the queue of a conversation executes its lines one after another. -/
theorem executesAll_files_iff_run {s s' : Session} {items : List Submission}
    {results : List Result} :
    files.ExecutesAll s items s' results ↔
      ∃ done, Queue.run Interactive.complete s items = (s', done, true) ∧
        done.map (·.result) = results := by
  refine executesAll_iff_run fun s item s' r => ?_
  rw [executes_files, Interactive.complete]
  rcases s.execute item.line item.sequence with ⟨s₁, _ | result⟩ <;> simp

def rehearsal : Shell Unit Rehearsal (Nat × Except Fault Text) where
  registry := Rehearsal.registry
  enter r arguments := r.outcome arguments
  resume
    | s, (0, outcome) => (s, .finished outcome)
    | s, (ticks + 1, outcome) => (s, .paused (ticks, outcome))

end Shell

end RemoteShell
