import RemoteShell.Console
import RemoteShell.Session
import RemoteShell.Transcript

set_option autoImplicit false

namespace RemoteShell

def Result.shown (r : Result) (width : Nat) : Except Markup.Fault Text :=
  match Transcript.result? r.isError r.markup with
  | some markup => Console.print width markup
  | none => .ok []

namespace Batch

inductive Ending where
  | finished
  | brokenOff
  | unprintable (fault : Markup.Fault)
  deriving DecidableEq, Repr

structure Run where
  session : Session
  output : Text
  hasFailed : Bool
  ending : Ending

/-- Running lines numbered from `sequence` on. -/
def run (width sequence : Nat) (s : Session) : List Text → Run
  | [] => ⟨s, [], false, .finished⟩
  | line :: rest =>
    match Console.print width (Transcript.input line) with
    | .error fault => ⟨s, [], false, .unprintable fault⟩
    | .ok echo =>
      match s.execute line sequence with
      | (s, none) => ⟨s, echo, false, .brokenOff⟩
      | (s, some result) =>
        match result.shown width with
        | .error fault => ⟨s, echo, result.isError, .unprintable fault⟩
        | .ok text =>
          let more := run width (sequence + 1) s rest
          { more with
            output := echo ++ text ++ more.output
            hasFailed := result.isError || more.hasFailed }

end Batch

end RemoteShell
