import RemoteShell.Program
import RemoteShell.Proofs.Interactive.Course

set_option autoImplicit false

namespace RemoteShell.Interactive

namespace Course

variable {σ α τ : Type} {sh : Shell σ α τ} {first : Course σ τ} {inputs : List Input}
  {phase : Phase} {console : List Notice} {n : Nat} {now s : σ} {history : History}
  {isOrdered : Bool} {submitted unfinished : Nat} {item : Submission} {pending : List Submission}
  {handed results : List Result} {r : Result}

theorem Run.work {st st' : Queue.State σ τ} {event : Queue.Event}
    (hrun : Run sh first n ⟨inputs, phase, st, console⟩) (hphase : phase ≠ .closed)
    (hwork : event.isWork = true) (hstep : Queue.Step sh st event st')
    (hmore : st'.handed = st.handed ++ results) :
    Run sh first (n + 1) ⟨inputs, phase, st', console ++ results.map .result⟩ := by
  have hnext := Step.work inputs hphase hwork hstep console
  rw [hmore, List.drop_left] at hnext
  exact hrun.snoc hnext

theorem Run.quiet {st st' : Queue.State σ τ} {event : Queue.Event}
    (hrun : Run sh first n ⟨inputs, phase, st, console⟩) (hphase : phase ≠ .closed)
    (hwork : event.isWork = true) (hstep : Queue.Step sh st event st')
    (hsame : st'.handed = st.handed) : Run sh first (n + 1) ⟨inputs, phase, st', console⟩ := by
  have hnext := hrun.work hphase hwork hstep (hsame.trans (List.append_nil _).symm)
  rwa [List.map_nil, List.append_nil] at hnext

theorem Run.exists_finished {stage : Stage τ} {outcome : Except Fault Text} {queue : Queue}
    (h : sh.Runs now stage s outcome) (hphase : phase ≠ .closed)
    (hrun : Run sh first n ⟨inputs, phase,
      ⟨now, history, queue, unfinished, [.running item stage], handed⟩, console⟩) :
    ∃ m, Run sh first m ⟨inputs, phase,
      ⟨s, history, queue, unfinished, [.running item (.finished outcome)], handed⟩, console⟩ := by
  induction h generalizing n with
  | finished => exact ⟨n, hrun⟩
  | resumed _ ih => exact ih (hrun.quiet hphase rfl (.resume [] [] rfl) rfl)

theorem Run.exists_handed (h : sh.Executes now item s r) (hphase : phase ≠ .closed)
    (hrun : Run sh first n ⟨inputs, phase,
      ⟨now, history, ⟨isOrdered, submitted, item :: pending⟩, unfinished, [.waiting], handed⟩,
      console⟩) :
    ∃ m, Run sh first m ⟨inputs, phase,
      ⟨s, history, ⟨isOrdered, submitted, pending⟩, unfinished - 1, [.waiting], handed ++ [r]⟩,
      console ++ [.result r]⟩ := by
  obtain ⟨outcome, hruns, rfl⟩ := h
  have htaken := hrun.quiet hphase rfl (.take [] [] rfl rfl) rfl
  obtain ⟨m, hfinished⟩ := htaken.exists_finished hruns hphase
  have hhanded := hfinished.work hphase rfl (.hand [] [] rfl) rfl
  have hrendered := hhanded.quiet hphase rfl (.render [] [] rfl false) rfl
  exact ⟨_, hrendered.quiet hphase rfl (.tick [] [] rfl) rfl⟩

/-- The worker may finish all pending lines before anything else happens. -/
theorem Run.exists_drained (h : sh.ExecutesAll now pending s results) (hphase : phase ≠ .closed)
    (hrun : Run sh first n ⟨inputs, phase,
      ⟨now, history, ⟨isOrdered, submitted, pending⟩, pending.length, [.waiting], handed⟩,
      console⟩) :
    ∃ m, Run sh first m ⟨inputs, phase,
      ⟨s, history, ⟨isOrdered, submitted, []⟩, 0, [.waiting], handed ++ results⟩,
      console ++ results.map .result⟩ := by
  induction h generalizing n handed console with
  | nil =>
    refine ⟨n, ?_⟩
    rwa [List.map_nil, List.append_nil, List.append_nil]
  | @cons _ _ _ _ _ r results first _ ih =>
    obtain ⟨m, hexecuted⟩ := hrun.exists_handed first hphase
    obtain ⟨m', hdrained⟩ := ih hexecuted
    rw [List.append_assoc, List.append_assoc] at hdrained
    exact ⟨m', hdrained⟩

end Course

variable {i : Interactive} {s s₀ : Session} {ls : List Text} {inputs rest : List Input}
  {results : List Result} {width : Nat} {greeting : Text} {first : Course Session FileRun}
  {phase : Phase}

theorem settle_of_executesAll (h : Shell.files.ExecutesAll i.session i.queue.pending s results)
    (hordered : i.queue.isOrdered = true) (width : Nat) :
    i.settle width = ({ i with
      session := s
      queue := i.queue.cleared
      output := i.output ++ (results.map .result).flatMap (Notice.text width) }, true) := by
  obtain ⟨done, hrun, rfl⟩ := Shell.executesAll_files_iff_run.mp h
  unfold settle Queue.drain Queue.order
  rw [hrun, hordered, List.flatMap_map]
  rfl

def atRest (i : Interactive) (handed : List Result) : Queue.State Session FileRun :=
  ⟨i.session, i.history, i.queue, i.queue.pending.length, [.waiting], handed⟩

theorem unfinished_atRest {i' : Interactive} (h : i'.queue = i.queue.cleared)
    (handed : List Result) : (i'.atRest handed).unfinished = 0 := by
  simp [atRest, h, Queue.cleared]

theorem submitted_atRest (line : Text) (handed : List Result) :
    (i.atRest handed).submitted line = (i.submit line).atRest handed := by
  simp [atRest, Queue.State.submitted, Queue.State.started, submit, Queue.submit]

/-- Some course from `first` on has come to where a conversation is. The conversation had shown
`greeting` before it took its first input. -/
def Stands (width : Nat) (greeting : Text) (first : Course Session FileRun) (phase : Phase)
    (inputs : List Input) (i : Interactive) : Prop :=
  i.queue.isOrdered = true ∧ ∃ n handed console,
    Course.Run Shell.files first n ⟨inputs, phase, i.atRest handed, console⟩ ∧
      i.output = greeting ++ console.flatMap (Notice.text width)

/-- A course from `first` on is over, and leaves and shows what a conversation does. -/
def Ends (width : Nat) (greeting : Text) (first : Course Session FileRun) (last : Interactive) :
    Prop :=
  ∃ n c, Course.Run Shell.files first n c ∧ c.phase = .closed ∧ c.work.shared = last.session ∧
    c.work.history = last.history ∧
    last.output = greeting ++ c.console.flatMap (Notice.text width) ++
      printed width Transcript.farewell

namespace Stands

theorem quiet {phase' : Phase} {inputs' : List Input} {i' : Interactive}
    (h : Stands width greeting first phase inputs i)
    (hstep : ∀ handed console, Course.Step Shell.files ⟨inputs, phase, i.atRest handed, console⟩
      ⟨inputs', phase', i'.atRest handed, console⟩)
    (hordered : i'.queue.isOrdered = i.queue.isOrdered) (houtput : i'.output = i.output) :
    Stands width greeting first phase' inputs' i' := by
  obtain ⟨hi, n, handed, console, hrun, hshown⟩ := h
  exact ⟨hordered.trans hi, n + 1, handed, console, hrun.snoc (hstep handed console),
    houtput.trans hshown⟩

theorem interrupt (h : Stands width greeting first .prompting (.interrupt :: inputs) i) :
    Stands width greeting first .prompting inputs
      (i.prompted.say (shown width [interruptedNote])) := by
  obtain ⟨hordered, n, handed, console, hrun, hshown⟩ := h
  refine ⟨hordered, n + 1, handed, _, hrun.snoc (.interrupt _ _ _), ?_⟩
  simp [say, prompted, hshown, Notice.text, shown_singleton]

theorem submit {line : Text} (hblank : isBlankLine line = false) (hexit : isExit line = false)
    (h : Stands width greeting first .prompting (.line line :: inputs) i) :
    Stands width greeting first .prompting inputs (i.prompted.submit line) := by
  refine h.quiet (fun handed console => ?_) rfl rfl
  rw [← submitted_atRest]
  exact .submit hblank hexit _ _ console

theorem initial (s₀ : Session) (history : History) (inputs : List Input) (width : Nat)
    (address : Text) :
    Stands width ((Transcript.status address s₀.workPath).flatMap (printed width))
      (.initial s₀ history inputs) .prompting inputs (start width address s₀ history true) := by
  refine ⟨rfl, 0, [], [], .start, ?_⟩
  rw [List.flatMap_nil, List.append_nil, ← shown_eq, start]

theorem exists_settled (h : Stands width greeting first phase inputs i) (hphase : phase ≠ .closed)
    (hall : Shell.files.ExecutesAll i.session i.queue.pending s results) :
    ∃ i', i.settle width = (i', true) ∧ i'.session = s ∧ i'.queue = i.queue.cleared ∧
      Stands width greeting first phase inputs i' := by
  obtain ⟨hordered, n, handed, console, hrun, hshown⟩ := h
  obtain ⟨m, hdrained⟩ := hrun.exists_drained hall hphase
  refine ⟨_, settle_of_executesAll hall hordered width, rfl, rfl, hordered, m, _, _, hdrained, ?_⟩
  rw [hshown, List.flatMap_append, List.append_assoc]

theorem exists_closed (h : Stands width greeting first .closing inputs i)
    (hall : Shell.files.ExecutesAll i.session i.queue.pending s results) :
    ∃ last, close width i = .ends last true ∧ Ends width greeting first last := by
  obtain ⟨i', hsettle, -, hqueue, -, n, handed, console, hrun, hshown⟩ :=
    h.exists_settled (by decide) hall
  refine ⟨i'.say (shown width [Transcript.farewell]), ?_, n + 1, _,
    hrun.snoc (.close _ (unfinished_atRest hqueue handed) _), rfl, rfl, rfl, ?_⟩
  · rw [close, hsettle]
  · rw [← hshown, ← shown_singleton]
    rfl

end Stands

theorem Stands.exists_run {input : Input}
    (h : i.take width input = close width i.prompted)
    (hstep : ∀ handed console,
      Course.Step Shell.files ⟨input :: rest, .prompting, i.atRest handed, console⟩
        ⟨rest, .closing, i.atRest handed, console⟩)
    (hstands : Stands width greeting first .prompting (input :: rest) i)
    (hall : Shell.files.ExecutesAll i.session i.queue.pending s results) :
    ∃ last, i.run width (input :: rest) = ⟨last, rest.length, true⟩ ∧
      Ends width greeting first last := by
  have hclosing : Stands width greeting first .closing rest i.prompted :=
    hstands.quiet hstep rfl rfl
  obtain ⟨last, hclose, hlast⟩ := hclosing.exists_closed hall
  refine ⟨last, ?_, hlast⟩
  rw [run, h, hclose]

/-- A conversation that finishes its pending lines only where it has to is one of the courses. -/
theorem Feeds.run (h : Feeds ls inputs rest)
    (hstands : Stands width greeting first .prompting inputs i)
    (hall : Shell.files.ExecutesAll i.session
      (i.queue.pending ++ Queue.numbered i.queue.submitted ls) s results) :
    ∃ last, i.run width inputs = ⟨last, rest.length, true⟩ ∧ Ends width greeting first last := by
  induction h generalizing i results with
  | exhausted =>
    rw [Queue.numbered, List.append_nil] at hall
    have hclosing : Stands width greeting first .closing [] i.prompted :=
      hstands.quiet (fun _ console => .exhausted _ console) rfl rfl
    obtain ⟨last, hclose, hlast⟩ := hclosing.exists_closed hall
    refine ⟨last, ?_, hlast⟩
    rw [Interactive.run, take, hclose]
    rfl
  | endOfInput rest =>
    rw [Queue.numbered, List.append_nil] at hall
    exact hstands.exists_run rfl (fun _ console => .endOfInput _ _ console) hall
  | leave hexit rest =>
    rw [Queue.numbered, List.append_nil] at hall
    have hblank := isBlankLine_of_isExit hexit
    refine hstands.exists_run ?_ (fun _ console => .leave hblank hexit _ _ console) hall
    rw [take, hblank, hexit]
    rfl
  | interrupt _ ih => exact ih hstands.interrupt hall
  | settle _ ih =>
    obtain ⟨now, done, more, hdone, hmore, -⟩ := hall.exists_append
    obtain ⟨i', hsettle, rfl, hqueue, hsettled⟩ := hstands.exists_settled (by decide) hdone
    have hnext : Stands width greeting first .prompting _ i' := hsettled.quiet
      (fun handed console => .settle _ (unfinished_atRest hqueue handed) console) rfl rfl
    have hrest := ih hnext (by simpa [hqueue, Queue.cleared] using hmore)
    rwa [Interactive.run, take, hsettle]
  | blank hblank _ ih =>
    rw [Interactive.run, take, if_pos hblank]
    exact ih (hstands.quiet (fun _ console => .blank hblank _ _ console) rfl rfl) hall
  | @line line hblank hexit ls _ _ _ ih =>
    have hnext : Shell.files.ExecutesAll (i.prompted.submit line).session
        ((i.prompted.submit line).queue.pending ++
          Queue.numbered (i.prompted.submit line).queue.submitted ls) s results := by
      rw [Queue.numbered] at hall
      simpa [Interactive.submit, Queue.submit, prompted] using hall
    rw [Interactive.run, take, hblank, hexit]
    exact ih (hstands.submit hblank hexit) hnext

/-- Over a remote that replies, lines come to one list of results and leave one session, whether
they are run one after another, typed at a prompt while the worker of its queue goes on in any
order, or drained when the conversation has to wait. Running them fails just if one of them does. At
the prompt the console gets these results in their order, with a note for every interrupt; all are
rendered by the end, which comes after so many steps, and inputs behind an exit word stay where they
are. A conversation that drains shows what one of the courses does. -/
theorem Feeds.matches_batch (h : Feeds ls inputs rest)
    (hs : ∀ x ∈ s₀.connection.script, x.IsReply) (width : Nat) (history : History)
    (address : Text) :
    let batch := Batch.run width 1 s₀ ls
    let results := Batch.results 1 s₀ ls
    (batch.ending = .finished ∧ batch.output = results.flatMap (Batch.entry width) ∧
      (Program.exitCode batch.hasFailed = 1 ↔ ∃ r ∈ results, r.isError = true)) ∧
    (results.map (·.line) = ls ∧
      results.map (·.sequence) = (List.range ls.length).map (fun k : Nat => (k : Int) + 1) ∧
      ∀ r ∈ results, ∃ text, r.shown width = .ok text) ∧
    (∀ n c, Course.Run Shell.files (.initial s₀ history inputs) n c →
      (c.work.handed <+: results ∧ c.console.filterMap Notice.result? = c.work.handed ∧
        c.console.length + c.inputs.count .interrupt =
          c.work.handed.length + inputs.count .interrupt) ∧
      n ≤ 7 * inputs.length + 2 ∧
      (c.phase ≠ .closed → ∃ c', Course.Step Shell.files c c') ∧
      (c.phase = .closed → c.work.handed = results ∧ c.work.shared = batch.session ∧
        c.inputs = rest ∧ ∀ w ∈ c.work.workers, w = .waiting)) ∧
    ∃ last n c, (start width address s₀ history true).run width inputs =
        ⟨last, rest.length, true⟩ ∧
      Course.Run Shell.files (.initial s₀ history inputs) n c ∧ c.phase = .closed ∧
      last.session = batch.session ∧ last.history = c.work.history ∧
      last.output = (Transcript.status address s₀.workPath).flatMap (printed width) ++
        c.console.flatMap (Notice.text width) ++ printed width Transcript.farewell ∧
      c.console.filterMap Notice.result? = results := by
  obtain ⟨s, results, hall⟩ := Shell.exists_executesAll hs (Queue.numbered 0 ls)
  have hlive := Course.isLive_initial hs history inputs
  have hfirst : Course.Keeps Shell.files s₀ ls rest (.initial s₀ history inputs) :=
    .initial h s₀ history
  have hstands : Stands width ((Transcript.status address s₀.workPath).flatMap (printed width))
      (.initial s₀ history inputs) .prompting inputs (start width address s₀ history true) :=
    .initial s₀ history inputs width address
  dsimp only
  rw [Batch.run_of_executesAll hall width, Batch.results_of_executesAll hall]
  refine ⟨⟨rfl, rfl, ?_⟩, ⟨?_, ?_, hall.exists_shown width⟩, fun n c hrun => ?_, ?_⟩
  · simp [Program.exitCode]
  · rw [hall.lines, Queue.map_line_numbered]
  · rw [hall.sequences, Queue.map_sequence_numbered]
    simp
  · have hkeeps := hrun.keeps hfirst
    have hbound := (hrun.bounded hlive).2
    rw [Course.left_initial] at hbound
    exact ⟨⟨hkeeps.isPrefix hall, hrun.told.results, hrun.told.notes⟩, by omega,
      hkeeps.exists_step, fun hphase => hkeeps.complete hphase hall⟩
  · obtain ⟨last, hlast, n, c, hrun, hphase, hshared, hhistory, houtput⟩ := h.run hstands hall
    obtain ⟨hhanded, hsession, -⟩ := (hrun.keeps hfirst).complete hphase hall
    exact ⟨last, n, c, hlast, hrun, hphase, hshared ▸ hsession, hhistory.symm, houtput,
      hhanded ▸ hrun.told.results⟩

def interrupted : List Input :=
  [.interrupt, .line "write /a x".toList, .interrupt, .line [' '], .line "read /b".toList,
    .line " Quit".toList, .line "rm /a".toList]

theorem feeds_interrupted : Feeds ["write /a x".toList, "read /b".toList] interrupted
    [.line "rm /a".toList] := by
  have hleave : isExit " Quit".toList = true := by decide +kernel
  exact .interrupt (.line rfl rfl (.interrupt (.blank rfl (.line rfl rfl (.leave hleave _)))))

theorem Feeds.matches_batch_interrupted : ∃ n c,
    Course.Run Shell.files
        (.initial (.start .inMemory [] Path.root) (.empty none) interrupted) n c ∧
      c.phase = .closed ∧ c.work.handed.map (·.isError) = [false, true] ∧
      c.console.length = 4 ∧ c.inputs = [.line "rm /a".toList] := by
  have hs : ∀ x ∈ (Session.start .inMemory [] Path.root).connection.script, x.IsReply :=
    List.forall_mem_nil _
  obtain ⟨-, -, hcourse, last, n, c, -, hrun, hclosed, -⟩ :=
    Feeds.matches_batch feeds_interrupted hs 80 (.empty none) []
  obtain ⟨⟨-, -, hnotes⟩, -, -, hcomplete⟩ := hcourse n c hrun
  obtain ⟨hhanded, -, hinputs, -⟩ := hcomplete hclosed
  have herrors : c.work.handed.map (·.isError) = [false, true] := by
    rw [hhanded]
    decide +kernel
  refine ⟨n, c, hrun, hclosed, herrors, ?_, hinputs⟩
  have htwo : c.work.handed.length = 2 := by
    rw [← List.length_map (·.isError), herrors]
    rfl
  have hnone : [Input.line "rm /a".toList].count .interrupt = 0 := by decide
  have hboth : interrupted.count .interrupt = 2 := by decide
  rw [hinputs, htwo, hnone, hboth] at hnotes
  exact hnotes

end RemoteShell.Interactive
