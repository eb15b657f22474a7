import RemoteShell.Text.Encoding

set_option autoImplicit false

namespace RemoteShell

namespace Utf8

def encodeChar (c : Char) : Octets :=
  let n := c.toNat
  if n < 0x80 then [.ofNat n]
  else if n < 0x800 then [.ofNat (0xC0 + n / 0x40), .ofNat (0x80 + n % 0x40)]
  else if n < 0x10000 then
    [.ofNat (0xE0 + n / 0x1000), .ofNat (0x80 + n / 0x40 % 0x40), .ofNat (0x80 + n % 0x40)]
  else
    [.ofNat (0xF0 + n / 0x40000), .ofNat (0x80 + n / 0x1000 % 0x40),
      .ofNat (0x80 + n / 0x40 % 0x40), .ofNat (0x80 + n % 0x40)]

def encode (s : Text) : Octets := s.flatMap encodeChar

/-- A character begun: the octets still owed, the bounds of the next one and the bits so far. -/
structure Pending where
  owed : Nat
  low : Nat
  high : Nat
  bits : Nat
  deriving DecidableEq, Repr

inductive Lead where
  | whole (c : Char)
  | opens (p : Pending)
  | bad

/-- The bounds after some first octets keep out long forms, halves of pairs and code points beyond
the last one. -/
def lead (b : Nat) : Lead :=
  if b < 0x80 then .whole (Char.ofNat b)
  else if b < 0xC2 then .bad
  else if b < 0xE0 then .opens ⟨1, 0x80, 0xBF, b - 0xC0⟩
  else if b = 0xE0 then .opens ⟨2, 0xA0, 0xBF, 0⟩
  else if b = 0xED then .opens ⟨2, 0x80, 0x9F, 0xD⟩
  else if b < 0xF0 then .opens ⟨2, 0x80, 0xBF, b - 0xE0⟩
  else if b = 0xF0 then .opens ⟨3, 0x90, 0xBF, 0⟩
  else if b < 0xF4 then .opens ⟨3, 0x80, 0xBF, b - 0xF0⟩
  else if b = 0xF4 then .opens ⟨3, 0x80, 0x8F, 4⟩
  else .bad

def Pending.takes (p : Pending) (b : Nat) : Bool := p.low ≤ b && b ≤ p.high

def Pending.next (p : Pending) (b : Nat) : Pending :=
  ⟨p.owed - 1, 0x80, 0xBF, p.bits * 0x40 + b % 0x40⟩

def replacement : Char := '\uFFFD'

def start (b : Nat) : Text × Option Pending :=
  match lead b with
  | .whole c => ([c], none)
  | .opens p => ([], some p)
  | .bad => ([replacement], none)

def step (p? : Option Pending) (b : Nat) : Text × Option Pending :=
  match p? with
  | none => start b
  | some p =>
    if p.takes b then
      let q := p.next b
      if q.owed = 0 then ([Char.ofNat q.bits], none) else ([], some q)
    else
      let (out, next) := start b
      (replacement :: out, next)

def decodeFrom (p? : Option Pending) : Octets → Text
  | [] => if p?.isSome then [replacement] else []
  | b :: rest =>
    let (out, next) := step p? b.toNat
    out ++ decodeFrom next rest

/-- Each longest piece that could begin a character and goes no further becomes one U+FFFD. -/
def decode (octets : Octets) : Text := decodeFrom none octets

open Encoding (Fault)

structure Open where
  pending : Pending
  octet : Nat
  index : Nat

def strictFrom (read : Text) (opened : Option Open) (index : Nat) : Octets → Except Fault Text
  | [] =>
    match opened with
    | none => .ok read.reverse
    | some o => .error ⟨.utf8, o.octet, o.index, index - o.index, .cutShort⟩
  | b :: rest =>
    match opened with
    | none =>
      match lead b.toNat with
      | .whole c => strictFrom (c :: read) none (index + 1) rest
      | .opens p => strictFrom read (some ⟨p, b.toNat, index⟩) (index + 1) rest
      | .bad => .error ⟨.utf8, b.toNat, index, 1, .badStart⟩
    | some o =>
      if o.pending.takes b.toNat then
        let q := o.pending.next b.toNat
        if q.owed = 0 then strictFrom (Char.ofNat q.bits :: read) none (index + 1) rest
        else strictFrom read (some { o with pending := q }) (index + 1) rest
      else .error ⟨.utf8, o.octet, o.index, index - o.index, .badContinuation⟩

def strict (octets : Octets) : Except Fault Text := strictFrom [] none 0 octets

end Utf8

end RemoteShell
