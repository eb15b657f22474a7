import RemoteShell.Markup.Literal
import RemoteShell.Text.Quoted
import RemoteShell.Text.Word

set_option autoImplicit false

namespace RemoteShell.Handler

/-- What is written in the tag, the part of it that was read as arguments, and what is wrong with
them. -/
structure Fault where
  written : Text
  arguments : Text
  reason : Literal.Fault
  deriving DecidableEq, Repr

def Fault.message (f : Fault) : Text :=
  match f.reason with
  | .misspelt problem =>
    "error parsing ".toList ++ Text.quoted f.arguments ++ " in ".toList ++ Text.quoted f.written ++
      "; ".toList ++ problem.message
  | .refused refusal =>
    "error parsing ".toList ++ Text.quoted f.written ++ "; ".toList ++ refusal.message

/-- The arguments of a handler: the brackets behind its name, or none if there is a name only. What
is neither stands for an argument itself. -/
def arguments (written : Text) : Text :=
  let s := Text.strip written
  let rest := s.dropWhile fun c => Text.isWord c || c = '.'
  if rest.isEmpty then "()".toList
  else if rest.head? = some '(' ∧ rest.getLast? = some ')' ∧ !rest.contains '\n' then rest
  else s

def check (written : Text) : Except Fault Unit :=
  if written.isEmpty then .ok ()
  else
    match Literal.check (arguments written) with
    | .ok () => .ok ()
    | .error reason => .error ⟨written, arguments written, reason⟩

end RemoteShell.Handler
