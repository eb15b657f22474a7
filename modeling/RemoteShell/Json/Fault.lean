import RemoteShell.Json.Read

set_option autoImplicit false

namespace RemoteShell.Json

/-- Lines and columns count from one, the index from zero. -/
structure Place where
  line : Nat
  column : Nat
  index : Nat
  deriving DecidableEq, Repr

def Place.before (whole rest : Text) : Place :=
  let index := whole.length - rest.length
  let done := whole.take index
  let inLine := done.reverse.takeWhile (· ≠ '\n')
  ⟨done.count '\n' + 1, inLine.length + 1, index⟩

inductive Fault where
  | malformed (problem : Problem) (place : Place)
  | longInteger (digits : Nat)
  deriving DecidableEq, Repr

def Fault.message : Fault → Text
  | .malformed problem place =>
    problem.message ++ ": line ".toList ++ Text.ofNat place.line ++ " column ".toList ++
      Text.ofNat place.column ++ " (char ".toList ++ Text.ofNat place.index ++ [')']
  | .longInteger digits => Numeral.longMessage digits

def located (whole : Text) : Stop → Fault
  | .problem what rest => .malformed what (Place.before whole rest)
  | .longInteger digits => .longInteger digits

def readBare (s : Text) : Except Fault Value := (document true s).mapError (located s)

/-- A document; it may not start with a byte order mark. -/
def read (s : Text) : Except Fault Value :=
  match s with
  | '\uFEFF' :: _ => .error (located s (.problem .byteOrderMark s))
  | _ => readBare s

def literal? (s : Text) : Option Value :=
  match s with
  | '\uFEFF' :: _ => none
  | _ => (document false s).toOption

end RemoteShell.Json
