import RemoteShell.Program
import RemoteShell.Proofs.Batch
import RemoteShell.Proofs.Interactive
import RemoteShell.Proofs.Queue.Progress

/-! A conversation beside the worker of its queue. Inputs are taken while lines are executed, in any
order of the two, and the end comes once every line is rendered. Whatever the order, the results are
those of the lines run one after another. -/

set_option autoImplicit false

namespace RemoteShell.Interactive

/-- Taking inputs, waiting for the lines still unfinished, or over. -/
inductive Phase where
  | prompting | closing | closed
  deriving DecidableEq

/-- What a console shows of a markup text; one that cannot be printed is left out. -/
def printed (width : Nat) (markup : Text) : Text := (Console.print width markup).toOption.getD []

theorem shown_eq (width : Nat) (markups : List Text) :
    shown width markups = markups.flatMap (printed width) := rfl

theorem shown_singleton (width : Nat) (markup : Text) :
    shown width [markup] = printed width markup :=
  List.flatMap_singleton _ _

/-- What a console gets between the greeting and the farewell. -/
inductive Notice where
  | interrupted
  | result (r : Result)

namespace Notice

def text (width : Nat) : Notice → Text
  | .interrupted => printed width interruptedNote
  | .result r => (r.shown width).toOption.getD []

def result? : Notice → Option Result
  | .interrupted => none
  | .result r => some r

@[simp]
theorem filterMap_result (rs : List Result) : (rs.map result).filterMap result? = rs := by
  rw [List.filterMap_map]
  exact List.filterMap_some

end Notice

structure Course (σ τ : Type) where
  inputs : List Input
  phase : Phase
  work : Queue.State σ τ
  console : List Notice

variable {σ α τ : Type}

def Course.initial (s : σ) (history : History) (inputs : List Input) : Course σ τ :=
  ⟨inputs, .prompting, (Queue.State.initial s history).started, []⟩

/-- One step of the prompt or of the worker. The console gets a result when the worker hands it to
the renderer. -/
inductive Course.Step (sh : Shell σ α τ) : Course σ τ → Course σ τ → Prop where
  | interrupt (inputs : List Input) (st : Queue.State σ τ) (console : List Notice) :
      Step sh ⟨.interrupt :: inputs, .prompting, st, console⟩
        ⟨inputs, .prompting, st, console ++ [.interrupted]⟩
  | settle (inputs : List Input) {st : Queue.State σ τ} (h : st.unfinished = 0)
      (console : List Notice) :
      Step sh ⟨.settle :: inputs, .prompting, st, console⟩ ⟨inputs, .prompting, st, console⟩
  | blank {line : Text} (h : isBlankLine line = true) (inputs : List Input)
      (st : Queue.State σ τ) (console : List Notice) :
      Step sh ⟨.line line :: inputs, .prompting, st, console⟩ ⟨inputs, .prompting, st, console⟩
  | leave {line : Text} (hblank : isBlankLine line = false) (hexit : isExit line = true)
      (inputs : List Input) (st : Queue.State σ τ) (console : List Notice) :
      Step sh ⟨.line line :: inputs, .prompting, st, console⟩ ⟨inputs, .closing, st, console⟩
  | submit {line : Text} (hblank : isBlankLine line = false) (hexit : isExit line = false)
      (inputs : List Input) (st : Queue.State σ τ) (console : List Notice) :
      Step sh ⟨.line line :: inputs, .prompting, st, console⟩
        ⟨inputs, .prompting, st.submitted line, console⟩
  | endOfInput (inputs : List Input) (st : Queue.State σ τ) (console : List Notice) :
      Step sh ⟨.endOfInput :: inputs, .prompting, st, console⟩ ⟨inputs, .closing, st, console⟩
  | exhausted (st : Queue.State σ τ) (console : List Notice) :
      Step sh ⟨[], .prompting, st, console⟩ ⟨[], .closing, st, console⟩
  | work (inputs : List Input) {phase : Phase} (hphase : phase ≠ .closed)
      {st st' : Queue.State σ τ} {event : Queue.Event} (hwork : event.isWork = true)
      (h : Queue.Step sh st event st') (console : List Notice) :
      Step sh ⟨inputs, phase, st, console⟩
        ⟨inputs, phase, st', console ++ (st'.handed.drop st.handed.length).map .result⟩
  | close (inputs : List Input) {st : Queue.State σ τ} (h : st.unfinished = 0)
      (console : List Notice) :
      Step sh ⟨inputs, .closing, st, console⟩ ⟨inputs, .closed, st, console⟩

inductive Course.Run (sh : Shell σ α τ) (first : Course σ τ) : Nat → Course σ τ → Prop where
  | start : Run sh first 0 first
  | snoc {n : Nat} {c c' : Course σ τ} (run : Run sh first n c) (step : Step sh c c') :
      Run sh first (n + 1) c'

/-- Inputs that submit some lines and then end the conversation, with those that are left. Between
the lines there may be interrupts, waits and blank lines. -/
inductive Feeds : List Text → List Input → List Input → Prop where
  | exhausted : Feeds [] [] []
  | endOfInput (rest : List Input) : Feeds [] (.endOfInput :: rest) rest
  | leave {line : Text} (hexit : isExit line = true) (rest : List Input) :
      Feeds [] (.line line :: rest) rest
  | interrupt {ls : List Text} {inputs rest : List Input} (h : Feeds ls inputs rest) :
      Feeds ls (.interrupt :: inputs) rest
  | settle {ls : List Text} {inputs rest : List Input} (h : Feeds ls inputs rest) :
      Feeds ls (.settle :: inputs) rest
  | blank {line : Text} (hblank : isBlankLine line = true) {ls : List Text}
      {inputs rest : List Input} (h : Feeds ls inputs rest) :
      Feeds ls (.line line :: inputs) rest
  | line {line : Text} (hblank : isBlankLine line = false) (hexit : isExit line = false)
      {ls : List Text} {inputs rest : List Input} (h : Feeds ls inputs rest) :
      Feeds (line :: ls) (.line line :: inputs) rest

theorem isBlankLine_of_isExit {line : Text} (h : isExit line = true) :
    isBlankLine line = false := by
  by_contra hblank
  have hempty : Text.strip line = [] := by simpa [isBlankLine] using hblank
  rw [isExit, hempty] at h
  exact absurd h (by decide)

variable {ls : List Text} {inputs rest : List Input}

theorem Feeds.submitted (h : Feeds ls inputs rest) : submitted inputs = ls := by
  induction h with
  | exhausted | endOfInput => rfl
  | leave hexit => simp [Interactive.submitted, isBlankLine_of_isExit hexit, hexit]
  | interrupt _ ih | settle _ ih => exact ih
  | blank hblank _ ih => simp [Interactive.submitted, hblank, ih]
  | line hblank hexit _ ih => simp [Interactive.submitted, hblank, hexit, ih]

theorem exists_feeds (inputs : List Input) : ∃ rest, Feeds (submitted inputs) inputs rest := by
  induction inputs with
  | nil => exact ⟨[], .exhausted⟩
  | cons input inputs ih =>
    obtain ⟨rest, h⟩ := ih
    cases input with
    | endOfInput => exact ⟨inputs, .endOfInput inputs⟩
    | interrupt => exact ⟨rest, .interrupt h⟩
    | settle => exact ⟨rest, .settle h⟩
    | line line =>
      cases hblank : isBlankLine line
      · cases hexit : isExit line
        · exact ⟨rest, by simpa [Interactive.submitted, hblank, hexit] using .line hblank hexit h⟩
        · exact ⟨inputs, by simpa [Interactive.submitted, hblank, hexit] using .leave hexit inputs⟩
      · exact ⟨rest, by simpa [Interactive.submitted, hblank] using .blank hblank h⟩

/-- How a course stands to the lines of all its inputs: some are submitted, and the inputs to come
feed the others. -/
inductive Course.Keeps (sh : Shell σ α τ) (s₀ : σ) (ls : List Text) (rest : List Input) :
    Course σ τ → Prop where
  | prompting {fed left : List Text} {inputs : List Input} {st : Queue.State σ τ}
      (hls : fed ++ left = ls) (hfeeds : Feeds left inputs rest) (h : Queue.Follows sh s₀ fed st)
      {console : List Notice} : Keeps sh s₀ ls rest ⟨inputs, .prompting, st, console⟩
  | closing {st : Queue.State σ τ} (h : Queue.Follows sh s₀ ls st) {console : List Notice} :
      Keeps sh s₀ ls rest ⟨rest, .closing, st, console⟩
  | closed {st : Queue.State σ τ} (h : Queue.Follows sh s₀ ls st) (hz : st.unfinished = 0)
      {console : List Notice} : Keeps sh s₀ ls rest ⟨rest, .closed, st, console⟩

namespace Course

variable {sh : Shell σ α τ} {s₀ s : σ} {c c' first : Course σ τ} {results : List Result}

theorem Keeps.initial (h : Feeds ls inputs rest) (s₀ : σ) (history : History) :
    Keeps sh s₀ ls rest (.initial s₀ history inputs) :=
  .prompting rfl h (Queue.Follows.initial history).started

theorem Keeps.leave {fed : List Text} {st : Queue.State σ τ} (hls : fed ++ [] = ls)
    (h : Queue.Follows sh s₀ fed st) {console : List Notice} :
    Keeps sh s₀ ls rest ⟨rest, .closing, st, console⟩ := by
  rw [List.append_nil] at hls
  exact .closing (hls ▸ h)

theorem Keeps.step (h : c.Keeps sh s₀ ls rest) (hstep : Step sh c c') :
    c'.Keeps sh s₀ ls rest := by
  cases h with
  | prompting hls hfeeds hfollows =>
    cases hstep with
    | interrupt =>
      cases hfeeds with
      | interrupt hfeeds => exact .prompting hls hfeeds hfollows
    | settle =>
      cases hfeeds with
      | settle hfeeds => exact .prompting hls hfeeds hfollows
    | blank hblank =>
      cases hfeeds with
      | leave hexit => simp [isBlankLine_of_isExit hexit] at hblank
      | blank _ hfeeds => exact .prompting hls hfeeds hfollows
      | line hblank' => simp [hblank] at hblank'
    | leave hblank hexit =>
      cases hfeeds with
      | leave => exact .leave hls hfollows
      | blank hblank' => simp [hblank] at hblank'
      | line _ hexit' => simp [hexit] at hexit'
    | submit hblank hexit =>
      cases hfeeds with
      | leave hexit' => simp [hexit] at hexit'
      | blank hblank' => simp [hblank] at hblank'
      | line _ _ hfeeds => exact .prompting (by simpa using hls) hfeeds (hfollows.submit _)
    | endOfInput =>
      cases hfeeds with
      | endOfInput => exact .leave hls hfollows
    | exhausted =>
      cases hfeeds with
      | exhausted => exact .leave hls hfollows
    | work _ _ hwork hstep => exact .prompting hls hfeeds (hfollows.work hwork hstep)
  | closing hfollows =>
    cases hstep with
    | work _ _ hwork hstep => exact .closing (hfollows.work hwork hstep)
    | close _ hz => exact .closed hfollows hz
  | closed =>
    cases hstep with
    | work _ hphase => exact absurd rfl hphase

theorem Run.keeps {n : Nat} (h : Run sh first n c) (hfirst : first.Keeps sh s₀ ls rest) :
    c.Keeps sh s₀ ls rest := by
  induction h with
  | start => exact hfirst
  | snoc _ hstep ih => exact ih.step hstep

theorem Keeps.exists_step (h : c.Keeps sh s₀ ls rest) (hphase : c.phase ≠ .closed) :
    ∃ c', Step sh c c' := by
  have hwork {fed : List Text} {st : Queue.State σ τ} (hfollows : Queue.Follows sh s₀ fed st)
      (hne : st.unfinished ≠ 0) {phase : Phase} (hphase : phase ≠ .closed) (inputs : List Input)
      (console : List Notice) : ∃ c', Step sh ⟨inputs, phase, st, console⟩ c' := by
    obtain ⟨event, st', hevent, hstep⟩ := hfollows.exists_work hne
    exact ⟨_, .work inputs hphase hevent hstep console⟩
  cases h with
  | @prompting _ _ inputs st _ hfeeds hfollows console =>
    cases hfeeds with
    | exhausted => exact ⟨_, .exhausted st console⟩
    | endOfInput => exact ⟨_, .endOfInput _ st console⟩
    | leave hexit => exact ⟨_, .leave (isBlankLine_of_isExit hexit) hexit _ st console⟩
    | interrupt => exact ⟨_, .interrupt _ st console⟩
    | settle =>
      by_cases hz : st.unfinished = 0
      · exact ⟨_, .settle _ hz console⟩
      · exact hwork hfollows hz hphase _ console
    | blank hblank => exact ⟨_, .blank hblank _ st console⟩
    | line hblank hexit => exact ⟨_, .submit hblank hexit _ st console⟩
  | @closing st hfollows console =>
    by_cases hz : st.unfinished = 0
    · exact ⟨_, .close rest hz console⟩
    · exact hwork hfollows hz hphase rest console
  | closed => exact absurd rfl hphase

theorem Keeps.isPrefix (h : c.Keeps sh s₀ ls rest)
    (hall : sh.ExecutesAll s₀ (Queue.numbered 0 ls) s results) : c.work.handed <+: results := by
  cases h with
  | prompting hls _ hfollows => exact hfollows.isPrefix _ (hls ▸ hall)
  | closing hfollows | closed hfollows _ =>
    exact hfollows.isPrefix [] (by rwa [List.append_nil])

/-- A course that is over has rendered everything and read no further. -/
theorem Keeps.complete (h : c.Keeps sh s₀ ls rest) (hphase : c.phase = .closed)
    (hall : sh.ExecutesAll s₀ (Queue.numbered 0 ls) s results) :
    c.work.handed = results ∧ c.work.shared = s ∧ c.inputs = rest ∧
      ∀ w ∈ c.work.workers, w = .waiting := by
  cases h with
  | prompting | closing => cases hphase
  | closed hfollows hz =>
    obtain ⟨hdone, hwaiting⟩ := hfollows.finished hz
    obtain ⟨hshared, hhanded⟩ := hdone.unique hall
    exact ⟨hhanded, hshared, rfl, hwaiting⟩

/-- How a console stands to the results handed out, and to so many interrupts in all. -/
structure Told (interrupts : Nat) (c : Course σ τ) : Prop where
  results : c.console.filterMap Notice.result? = c.work.handed
  notes : c.console.length + c.inputs.count .interrupt = c.work.handed.length + interrupts

theorem Told.step {interrupts : Nat} (h : c.Told interrupts) (hstep : Step sh c c') :
    c'.Told interrupts := by
  obtain ⟨hresults, hnotes⟩ := h
  cases hstep with
  | interrupt =>
    dsimp only at hresults hnotes
    rw [List.count_cons_self] at hnotes
    refine ⟨?_, ?_⟩
    · rw [List.filterMap_append, hresults]
      exact List.append_nil _
    · simp only [List.length_append, List.length_singleton]
      omega
  | submit =>
    dsimp only at hresults hnotes
    rw [List.count_cons_of_ne (by simp)] at hnotes
    exact ⟨by rw [Queue.State.handed_submitted, hresults],
      by rw [Queue.State.handed_submitted, hnotes]⟩
  | settle | blank | leave | endOfInput =>
    dsimp only at hnotes
    rw [List.count_cons_of_ne (by simp)] at hnotes
    exact ⟨hresults, hnotes⟩
  | exhausted | close => exact ⟨hresults, hnotes⟩
  | work _ _ _ hstep =>
    obtain ⟨more, hmore⟩ := hstep.handed_isPrefix
    dsimp only at hresults hnotes
    rw [← hmore, List.drop_left]
    refine ⟨?_, ?_⟩
    · rw [List.filterMap_append, hresults, Notice.filterMap_result, hmore]
    · simp only [← hmore, List.length_append, List.length_map]
      omega

/-- At any moment the console has the results handed out so far, in their order, and a note for each
interrupt that was taken. -/
theorem Run.told {history : History} {n : Nat} (h : Run sh (.initial s₀ history inputs) n c) :
    c.Told (inputs.count .interrupt) := by
  induction h with
  | start => exact ⟨rfl, rfl⟩
  | snoc _ hstep ih => exact ih.step hstep

end Course

def Phase.left : Phase → Nat
  | .prompting => 2
  | .closing => 1
  | .closed => 0

/-- The most steps of a course from here on. -/
def Course.left (c : Course Session FileRun) : Nat :=
  7 * c.inputs.length + c.phase.left + c.work.left

namespace Course

variable {c c' first : Course Session FileRun}

theorem Step.left_lt (hstep : Step Shell.files c c') (h : c.work.IsLive) :
    c'.work.IsLive ∧ c'.left < c.left := by
  cases hstep with
  | interrupt | settle | blank =>
    refine ⟨h, ?_⟩
    simp only [left, List.length_cons]
    omega
  | leave | endOfInput =>
    refine ⟨h, ?_⟩
    simp only [left, List.length_cons, Phase.left]
    omega
  | exhausted | close =>
    refine ⟨h, ?_⟩
    simp only [left, Phase.left]
    omega
  | submit =>
    obtain ⟨hlive, hleft⟩ := h.submitted _
    refine ⟨hlive, ?_⟩
    simp only [left, List.length_cons] at hleft ⊢
    omega
  | work _ _ hwork hstep =>
    obtain ⟨hlive, hleft⟩ := hstep.left_lt hwork h
    exact ⟨hlive, Nat.add_lt_add_left hleft _⟩

theorem Run.bounded {n : Nat} (h : Run Shell.files first n c) (hfirst : first.work.IsLive) :
    c.work.IsLive ∧ n + c.left ≤ first.left := by
  induction h with
  | start => exact ⟨hfirst, by omega⟩
  | snoc _ hstep ih =>
    obtain ⟨hlive, hbound⟩ := ih
    obtain ⟨hlive', hleft⟩ := hstep.left_lt hlive
    exact ⟨hlive', by omega⟩

theorem isLive_initial {s : Session} (hs : ∀ x ∈ s.connection.script, x.IsReply)
    (history : History) (inputs : List Input) :
    (initial s history inputs : Course Session FileRun).work.IsLive :=
  ⟨hs, by simp [initial, Queue.State.started, Queue.State.initial]⟩

theorem left_initial (s : Session) (history : History) (inputs : List Input) :
    (initial s history inputs : Course Session FileRun).left = 7 * inputs.length + 2 := rfl

end Course

end RemoteShell.Interactive
