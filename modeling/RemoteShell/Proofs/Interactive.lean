import RemoteShell.Interactive

set_option autoImplicit false

namespace RemoteShell.Interactive

def submitted : List Input → List Text
  | [] | .endOfInput :: _ => []
  | .interrupt :: rest | .settle :: rest => submitted rest
  | .line line :: rest =>
    if isBlankLine line then submitted rest
    else if isExit line then []
    else line :: submitted rest

/-- The lines that a conversation got from its inputs; one that was broken off left some unread. -/
def Ended.recorded (e : Ended) (inputs : List Input) : List Text :=
  if e.isFinished then submitted inputs
  else submitted (inputs.take (inputs.length - e.unread))

variable {width : Nat} {i i' : Interactive} {input : Input}

theorem history_of_settle {finished : Bool} (h : i.settle width = (i', finished)) :
    i'.history = i.history :=
  congrArg (fun p : Interactive × Bool => p.1.history) h.symm

theorem history_of_close {finished : Bool} (h : close width i = .ends i' finished) :
    i'.history = i.history := by
  unfold close at h
  split at h
  · next hs =>
    have hsettled := history_of_settle hs
    cases h
    exact hsettled
  · next hs =>
    have hsettled := history_of_settle hs
    cases h
    exact hsettled

theorem close_ne_goesOn : close width i ≠ .goesOn i' := by
  unfold close
  split <;> exact fun h => nomatch h

theorem history_of_goesOn (h : i.take width input = .goesOn i') :
    i'.history = (submitted [input]).foldl History.append i.history ∧
      ∀ rest, submitted (input :: rest) = submitted [input] ++ submitted rest := by
  cases input with
  | endOfInput => exact absurd h close_ne_goesOn
  | interrupt =>
    cases h
    exact ⟨rfl, fun _ => rfl⟩
  | settle =>
    rw [take] at h
    split at h
    · next hs =>
      have hsettled := history_of_settle hs
      cases h
      exact ⟨hsettled, fun _ => rfl⟩
    · cases h
  | line line =>
    rw [take] at h
    split at h
    · next hblank =>
      cases h
      simp only [submitted, if_pos hblank]
      exact ⟨rfl, fun _ => rfl⟩
    · split at h
      · exact absurd h close_ne_goesOn
      · next hblank hexit =>
        cases h
        simp only [submitted, if_neg hblank, if_neg hexit]
        exact ⟨rfl, fun _ => rfl⟩

theorem history_of_ends {finished : Bool} (h : i.take width input = .ends i' finished) :
    i'.history = i.history ∧ submitted [input] = [] ∧
      (finished = true → ∀ rest, submitted (input :: rest) = []) := by
  cases input with
  | endOfInput => exact ⟨history_of_close (i := i.prompted) h, rfl, fun _ _ => rfl⟩
  | interrupt => cases h
  | settle =>
    rw [take] at h
    split at h
    · cases h
    · next hs =>
      have hsettled := history_of_settle hs
      cases h
      exact ⟨hsettled, rfl, fun h => nomatch h⟩
  | line line =>
    rw [take] at h
    split at h
    · cases h
    · split at h
      · next hblank hexit =>
        have hnone (rest : List Input) : submitted (.line line :: rest) = [] := by
          rw [submitted, if_neg hblank, if_pos hexit]
        exact ⟨history_of_close (i := i.prompted) h, hnone [], fun _ => hnone⟩
      · cases h

theorem unread_run_le (width : Nat) (i : Interactive) (inputs : List Input) :
    (i.run width inputs).unread ≤ inputs.length := by
  induction inputs generalizing i with
  | nil =>
    unfold run
    split <;> exact Nat.le_refl 0
  | cons input rest ih =>
    unfold run
    split
    · next i' _ => exact Nat.le_succ_of_le (ih i')
    · exact Nat.le_succ _

/-- The log after a conversation: what it was before, and the lines that the inputs submitted. -/
theorem history_run (width : Nat) (i : Interactive) (inputs : List Input) :
    (i.run width inputs).last.history =
      ((i.run width inputs).recorded inputs).foldl History.append i.history := by
  induction inputs generalizing i with
  | nil =>
    unfold run
    split
    · next h => exact absurd h close_ne_goesOn
    · next i' finished h =>
      rw [(history_of_ends h).1]
      cases finished <;> rfl
  | cons input rest ih =>
    unfold run
    split
    · next i' h =>
      obtain ⟨hhistory, hrest⟩ := history_of_goesOn h
      have hunread := unread_run_le width i' rest
      have hrecorded : (i'.run width rest).recorded (input :: rest) =
          submitted [input] ++ (i'.run width rest).recorded rest := by
        unfold Ended.recorded
        split
        · exact hrest rest
        · rw [List.length_cons, Nat.succ_sub hunread, List.take_succ_cons]
          exact hrest _
      rw [ih i', hrecorded, List.foldl_append, hhistory]
    · next i' finished h =>
      obtain ⟨hhistory, hnone, hends⟩ := history_of_ends h
      have hrecorded : Ended.recorded ⟨i', rest.length, finished⟩ (input :: rest) = [] := by
        unfold Ended.recorded
        split
        · next hfinished => exact hends hfinished rest
        · rw [List.length_cons, Nat.succ_sub (Nat.le_refl _), Nat.sub_self, List.take_succ_cons,
            List.take_zero]
          exact hnone
      rw [hrecorded, hhistory]
      rfl

end RemoteShell.Interactive
