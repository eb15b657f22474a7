import RemoteShell.Registry

/-! Submitted lines on their way to being run. An ordered queue finishes them one after another; in
an unordered one all of them run at once, and those that need fewer ticks finish first. -/

set_option autoImplicit false

namespace RemoteShell

structure Submission where
  sequence : Nat
  line : Text
  deriving DecidableEq, Repr

/-- The lines not yet run, and how many were submitted in all. -/
structure Queue where
  isOrdered : Bool
  submitted : Nat
  pending : List Submission

structure Completion where
  ticks : Nat
  result : Result
  deriving DecidableEq, Repr

namespace Queue

def empty (isOrdered : Bool) : Queue := ⟨isOrdered, 0, []⟩

def submit (q : Queue) (line : Text) : Queue :=
  let sequence := q.submitted + 1
  { q with submitted := sequence, pending := q.pending ++ [⟨sequence, line⟩] }

variable {σ : Type}

/-- Running submissions in their order; one that is broken off ends the run. -/
def run (step : σ → Submission → σ × Option Completion) (s : σ) :
    List Submission → σ × List Completion × Bool
  | [] => (s, [], true)
  | item :: rest =>
    match step s item with
    | (s, none) => (s, [], false)
    | (s, some done) =>
      let (s, more, finished) := run step s rest
      (s, done :: more, finished)

def order (q : Queue) (done : List Completion) : List Result :=
  (if q.isOrdered then done else done.mergeSort fun a b => a.ticks ≤ b.ticks).map (·.result)

def cleared (q : Queue) : Queue := { q with pending := [] }

/-- Finishing all pending lines. The truth value says that none was broken off. -/
def drain (q : Queue) (step : σ → Submission → σ × Option Completion) (s : σ) :
    σ × List Result × Bool :=
  let (s, done, finished) := run step s q.pending
  (s, q.order done, finished)

end Queue

end RemoteShell
