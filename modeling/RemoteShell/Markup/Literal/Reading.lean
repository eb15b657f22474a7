import RemoteShell.Markup.Literal.Expression
import RemoteShell.Markup.Literal.Token
import Std.Data.HashMap

/-! Readers of tokens. One takes tokens or fails, and another may then read from the same place;
only a problem that is raised ends the reading. What a rule of the grammar came to at a place is
kept, so that no rule is tried twice there. -/

set_option autoImplicit false

namespace RemoteShell.Literal

inductive Rule where
  | expressions | expression | bareExpression | starExpressions | starExpression | starNamed
  | named | assignment | disjunction | conjunction | inversion | comparison | bitOr | bitXor
  | bitAnd | shift | sum | term | factor | power | awaited | primary | atom | quotes | tuple | group
  | generator | map | set | mapGenerator | setGenerator | lambda | yielded | clauses | targets
  | target | arguments | positions | keywords
  deriving DecidableEq, Hashable

/-- Whether what a rule comes to is kept for every reading alike: a problem is then found only if it
was looked for when the rule was first tried there. -/
def Rule.isShared : Rule → Bool
  | .expression | .starExpression | .disjunction | .conjunction | .inversion | .bitOr | .bitXor
  | .bitAnd | .shift | .sum | .term | .factor | .awaited | .primary | .quotes | .target
  | .arguments => true
  | _ => false

/-- A problem, and how many tokens had been looked at when it was found. -/
structure Raised where
  problem : Problem
  seen : Nat

structure Progress where
  tokens : Array Token
  ending : Ending
  next : Nat
  seen : Nat
  /-- Whether the reading is to find out what is wrong. -/
  explains : Bool
  known : Std.HashMap (Rule × Nat × Bool) (Option Expression × Nat)

def Progress.start (scan : Scan) (explains : Bool) : Progress :=
  ⟨scan.tokens.toArray, scan.ending, 0, 0, explains, ∅⟩

abbrev Reading (α : Type) := OptionT (StateT Progress (Except Raised)) α

section

variable {α β : Type}

def Reading.run (r : Reading α) (p : Progress) : Except Raised (Option α × Progress) := r p

def raise (problem : Problem) : Reading α := fun p => .error ⟨problem, p.seen⟩

/-- The next token. There is none behind the end; where the text breaks off, that is the problem. -/
def look : Reading Token := fun p =>
  let p := { p with seen := max p.seen (min (p.next + 1) p.tokens.size) }
  match p.tokens[p.next]? with
  | some t => .ok (some t, p)
  | none =>
    match p.ending with
    | .complete => .ok (none, p)
    | .unclosed opening _ _ => .error ⟨.notClosed opening, p.seen⟩
    | .broken problem => .error ⟨problem, p.seen⟩
    | .stuck problem _ => .error ⟨problem, p.seen⟩

def skip : Reading Unit := fun p => .ok (some (), { p with next := p.next + 1 })

def last? : Reading (Option Token) := fun p => .ok (some p.tokens[p.next - 1]?, p)

def wanted (accepts : Token → Bool) : Reading Token := do
  let t ← look
  if accepts t then
    skip
    return t
  else failure

def kind (k : Kind) : Reading Token := wanted fun t => t.kind = k

def mark (word : String) : Reading Token :=
  wanted fun t => t.kind = .mark && t.text == word.toList

def name : Reading Text := do return (← kind .name).text

def choose : List (Reading α) → Reading α
  | [] => failure
  | r :: rest => fun p =>
    let next := p.next
    match r.run p with
    | .ok (some a, p') => .ok (some a, p')
    | .ok (none, p') => (choose rest).run { p' with next := next }
    | .error e => .error e

def optional (r : Reading α) : Reading (Option α) := choose [some <$> r, pure none]

def ahead (r : Reading α) : Reading Bool := fun p =>
  let next := p.next
  match r.run p with
  | .ok (a, p') => .ok (some a.isSome, { p' with next := next })
  | .error e => .error e

def followedBy (r : Reading α) : Reading Unit := do if ← ahead r then pure () else failure

def notFollowedBy (r : Reading α) : Reading Unit := do if ← ahead r then failure else pure ()

def times (r : Reading α) : Nat → Reading (List α)
  | 0 => pure []
  | n + 1 => do
    match ← optional r with
    | some a => return a :: (← times r n)
    | none => return []

/-- No reader succeeds more often than there are tokens. -/
def many (r : Reading α) : Reading (List α) := do
  let p ← get
  times r p.tokens.size

def separated (r : Reading α) (separator : String) : Reading (List α) := do
  let first ← r
  let more ← many do
    let _ ← mark separator
    r
  return first :: more

def grown (step : α → Reading α) (a : α) : Nat → Reading α
  | 0 => pure a
  | n + 1 => do
    match ← optional (step a) with
    | some b => grown step b n
    | none => pure a

def growing (step : α → Reading α) (a : α) : Reading α := do
  let p ← get
  grown step a p.tokens.size

/-- Readers that look for a problem. The first that succeeds ends the search without one. -/
def search (readers : List (Reading Unit)) : Reading α := do
  choose readers
  failure

/-- A search only while the reading is to find out what is wrong. -/
def explain (readers : List (Reading Unit)) : Reading α := do
  let p ← get
  if p.explains then search readers else failure

def withoutExplaining (r : Reading α) : Reading α := fun p =>
  let explains := p.explains
  match r.run { p with explains := false } with
  | .ok (a, p') => .ok (a, { p' with explains := explains })
  | .error e => .error e

end

/-- A rule is tried once at each place. -/
def remembered (rule : Rule) (r : Reading Expression) : Reading Expression := fun p =>
  let key := (rule, p.next, p.explains && !rule.isShared)
  match p.known[key]? with
  | some (a, next) => .ok (a, if a.isSome then { p with next := next } else p)
  | none =>
    match r.run p with
    | .ok (a, p') =>
      .ok (a, { p' with known := p'.known.insert key (a, p'.next) })
    | .error e => .error e

end RemoteShell.Literal
