import RemoteShell.Markup.Literal.Grammar

set_option autoImplicit false

namespace RemoteShell.Literal

inductive Fault where
  | misspelt (problem : Problem)
  | refused (refusal : Refusal)
  deriving DecidableEq, Repr

def Ending.opened? : Ending → Option (Char × Nat)
  | .unclosed opening line _ => some (opening, line)
  | .stuck _ opened => opened
  | _ => none

/-- The problem to tell of where one was found. A text that breaks off comes first, and so does a
bracket that is open since an earlier line. -/
def overruled (scan : Scan) (found : Raised) : Problem :=
  match scan.ending with
  | .broken problem => problem
  | ending =>
    match ending.opened?, scan.tokens[found.seen - 1]? with
    | some (opening, line), some token =>
      if line < token.line then .notClosed opening else found.problem
    | _, _ => found.problem

/-- The same for a problem that a reader raised. Such a one stands once all of the text was looked
at. -/
def settled (scan : Scan) (raised : Raised) : Problem :=
  match scan.ending with
  | .unclosed _ _ true =>
    if raised.seen = scan.tokens.length then raised.problem else overruled scan raised
  | .stuck problem _ => if raised.problem = problem then problem else overruled scan raised
  | _ => overruled scan raised

def unreadable (scan : Scan) (seen : Nat) : Problem :=
  let start := Progress.start scan true
  match (whole scan.tokens.length).run { start with seen := seen } with
  | .error raised => settled scan raised
  | .ok (_, p) =>
    match scan.tokens[seen - 1]? with
    | some ⟨.indent, _, _, _⟩ => .indented
    | _ => overruled scan ⟨.unexpected, p.seen⟩

def expression (s : Text) : Except Problem Expression :=
  let scan := scan s
  match (whole scan.tokens.length).run (Progress.start scan false) with
  | .ok (some e, _) => .ok e
  | .ok (none, p) => .error (unreadable scan p.seen)
  | .error raised => .error (settled scan raised)

def check (s : Text) : Except Fault Unit :=
  match expression (s.dropWhile fun c => c = ' ' || c = '\t') with
  | .error problem => .error (.misspelt problem)
  | .ok e =>
    match e.check with
    | .ok _ => .ok ()
    | .error refusal => .error (.refused refusal)

end RemoteShell.Literal
