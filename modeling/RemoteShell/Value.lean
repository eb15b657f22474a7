import RemoteShell.Assoc
import RemoteShell.Number.Double

set_option autoImplicit false

namespace RemoteShell

inductive Value where
  | null
  | bool (b : Bool)
  | int (n : Int)
  | real (x : Double)
  | text (s : Points)
  | list (items : List Value)
  | map (fields : List (Points × Value))
  deriving Inhabited

namespace Value

abbrev ofText (s : Text) : Value := .text s

abbrev Fields := List (Points × Value)

namespace Fields

def ofAssoc (m : Assoc Value) : Fields := m.map fun e => (Points.ofText e.1, e.2)

def toAssoc (fields : Fields) : Assoc Value := fields.map fun e => (e.1.toText, e.2)

/-- The fields whose keys have no halves. -/
def named (fields : Fields) : Assoc Value :=
  fields.filterMap fun e => e.1.text?.map fun key => (key, e.2)

instance : Coe (Assoc Value) Fields := ⟨ofAssoc⟩

end Fields

def truth : Value → Bool
  | .null => false
  | .bool b => b
  | .int n => n != 0
  | .real x => !x.isZero
  | .text s => !s.isEmpty
  | .list items => !items.isEmpty
  | .map fields => !fields.isEmpty

def kind : Value → Text
  | .null => "NoneType".toList
  | .bool _ => "bool".toList
  | .int _ => "int".toList
  | .real _ => "float".toList
  | .text _ => "str".toList
  | .list _ => "list".toList
  | .map _ => "dict".toList

/-- The members that a walk over a value meets: the items of a list, the code points of a text and
the keys of a map. Other values have none. -/
def members? : Value → Option (List Value)
  | .text s => some (s.map fun p => .text [p])
  | .list items => some items
  | .map fields => some (fields.map fun f => .text f.1)
  | _ => none

def whole? : Value → Option Int
  | .bool b => some (if b then 1 else 0)
  | .int n => some n
  | .real x => x.whole?
  | _ => none

mutual

/-- Equality of values: numbers by what they are worth, maps without regard to order. -/
def same : Value → Value → Bool
  | .null, .null => true
  | .text s, .text t => s == t
  | .list xs, .list ys => sameItems xs ys
  | .map fs, .map gs => fs.length == gs.length && sameFields fs gs
  | .real x, .real y => x.same y
  | v, w =>
    match v.whole?, w.whole? with
    | some a, some b => a == b
    | _, _ => false

def sameItems : List Value → List Value → Bool
  | [], [] => true
  | v :: vs, w :: ws => same v w && sameItems vs ws
  | _, _ => false

def sameFields : List (Points × Value) → List (Points × Value) → Bool
  | [], _ => true
  | (key, v) :: rest, other =>
    (match Assoc.get? key other with
      | some w => same v w
      | none => false) && sameFields rest other

end

end Value

end RemoteShell
