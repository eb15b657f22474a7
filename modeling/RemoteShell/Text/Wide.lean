import RemoteShell.Text.Encoding

set_option autoImplicit false

namespace RemoteShell.Wide

def number (order : Order) (octets : Octets) : Nat :=
  let octets :=
    match order with
    | .high => octets
    | .low => octets.reverse
  octets.foldl (fun n b => 0x100 * n + b.toNat) 0

/-- A half of a pair that stands alone is no character. -/
def character (n : Nat) : Char := if n.isValidChar then Char.ofNat n else '\uFFFD'

def isHighHalf (n : Nat) : Bool := 0xD800 ≤ n && n < 0xDC00

def isLowHalf (n : Nat) : Bool := 0xDC00 ≤ n && n < 0xE000

def joinPairs : List Nat → List Nat
  | high :: low :: rest =>
    if isHighHalf high && isLowHalf low then
      (0x10000 + 0x400 * (high - 0xD800) + (low - 0xDC00)) :: joinPairs rest
    else high :: joinPairs (low :: rest)
  | rest => rest

def twos (order : Order) (index : Nat) : Octets → Except Encoding.Fault (List Nat)
  | [] => .ok []
  | [a] => .error ⟨.utf16 order, a.toNat, index, 1, .truncated⟩
  | a :: b :: rest => (twos order (index + 2) rest).map (number order [a, b] :: ·)

def utf16 (order : Order) (index : Nat) (octets : Octets) : Except Encoding.Fault Text :=
  (twos order index octets).map fun ns => (joinPairs ns).map character

def codeEnd : Nat := 0x110000

def utf32 (order : Order) (index : Nat) : Octets → Except Encoding.Fault Text
  | [] => .ok []
  | a :: b :: c :: d :: rest =>
    let n := number order [a, b, c, d]
    if n < codeEnd then (utf32 order (index + 4) rest).map (character n :: ·)
    else .error ⟨.utf32 order, a.toNat, index, 4, .beyondLast⟩
  | a :: rest => .error ⟨.utf32 order, a.toNat, index, rest.length + 1, .truncated⟩

end RemoteShell.Wide
