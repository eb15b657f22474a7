import RemoteShell.Proofs.Queue.Worker
import RemoteShell.Proofs.Session.Effect
import RemoteShell.Proofs.Transcript

set_option autoImplicit false

namespace RemoteShell

variable {s s' : Session}

theorem Session.exists_execute (hs : ∀ x ∈ s.connection.script, x.IsReply) (line : Text)
    (sequence : Int) : ∃ s' r, s.execute line sequence = (s', some r) ∧
      ∀ x ∈ s'.connection.script, x.IsReply := by
  rcases hline : FileCommand.registry.dispatchLine line with fault | ⟨markup⟩ | ⟨name, c, a⟩
  · exact ⟨s, _, execute_of_error hline sequence, hs⟩
  · exact ⟨s, _, execute_of_say hline sequence, hs⟩
  · obtain ⟨s', outcome, hperform, heffect⟩ := perform_effect hs c a
    refine ⟨s', .of line sequence outcome, ?_, fun x hx => hs x (heffect.script hx)⟩
    rw [execute_of_act hline, hperform]
    rfl

namespace Shell

theorem exists_executesAll (hs : ∀ x ∈ s.connection.script, x.IsReply)
    (items : List Submission) : ∃ s' results, files.ExecutesAll s items s' results := by
  induction items generalizing s with
  | nil => exact ⟨s, [], .nil s⟩
  | cons item items ih =>
    obtain ⟨now, r, hexecute, hnow⟩ := Session.exists_execute hs item.line item.sequence
    obtain ⟨s', results, hmore⟩ := ih hnow
    exact ⟨s', r :: results, .cons ((executes_files s item now r).mpr hexecute) hmore⟩

theorem ExecutesAll.exists_shown {items : List Submission} {results : List Result}
    (h : files.ExecutesAll s items s' results) (width : Nat) :
    ∀ r ∈ results, ∃ text, r.shown width = .ok text := by
  induction h with
  | nil => exact List.forall_mem_nil _
  | cons first _ ih =>
    have hexecute := (executes_files _ _ _ _).mp first
    exact List.forall_mem_cons.mpr ⟨Session.exists_shown hexecute width, ih⟩

end Shell

namespace Batch

/-- The results of lines numbered from `sequence` on, up to one that is broken off. -/
def results (sequence : Nat) (s : Session) : List Text → List Result
  | [] => []
  | line :: rest =>
    match s.execute line sequence with
    | (_, none) => []
    | (s, some r) => r :: results (sequence + 1) s rest

def entry (width : Nat) (r : Result) : Text :=
  (Console.print width (Transcript.input r.line)).toOption.getD [] ++
    (r.shown width).toOption.getD []

theorem results_cons {line : Text} {r : Result} {sequence : Nat}
    (h : s.execute line sequence = (s', some r)) (rest : List Text) :
    results sequence s (line :: rest) = r :: results (sequence + 1) s' rest := by
  rw [results, h]

theorem run_cons {line : Text} {r : Result} {sequence : Nat}
    (h : s.execute line sequence = (s', some r)) (width : Nat) (rest : List Text) :
    run width sequence s (line :: rest) =
      { run width (sequence + 1) s' rest with
        output := entry width r ++ (run width (sequence + 1) s' rest).output
        hasFailed := r.isError || (run width (sequence + 1) s' rest).hasFailed } := by
  obtain ⟨echo, hecho⟩ := Transcript.exists_echo width line
  obtain ⟨text, htext⟩ := Session.exists_shown h width
  have hline : r.line = line := by
    obtain ⟨outcome, -, rfl⟩ := (Shell.executes_files s ⟨sequence, line⟩ s' r).mpr h
    exact Shell.line_of line sequence outcome
  rw [run, hecho]
  simp only [h, htext, entry, hline, hecho]
  rfl

theorem results_of_executesAll {n : Nat} {ls : List Text} {rs : List Result}
    (h : Shell.files.ExecutesAll s (Queue.numbered n ls) s' rs) : results (n + 1) s ls = rs := by
  induction ls generalizing n s rs with
  | nil =>
    cases h
    rfl
  | cons line ls ih =>
    cases h with
    | cons first more =>
      rw [results_cons ((Shell.executes_files _ _ _ _).mp first), ih more]

theorem run_of_executesAll {n : Nat} {ls : List Text} {rs : List Result}
    (h : Shell.files.ExecutesAll s (Queue.numbered n ls) s' rs) (width : Nat) :
    run width (n + 1) s ls =
      ⟨s', rs.flatMap (entry width), rs.any Result.isError, .finished⟩ := by
  induction ls generalizing n s rs with
  | nil =>
    cases h
    rfl
  | cons line ls ih =>
    cases h with
    | cons first more =>
      rw [run_cons ((Shell.executes_files _ _ _ _).mp first), ih more]
      rfl

end Batch

end RemoteShell
