import RemoteShell.Text

set_option autoImplicit false

namespace RemoteShell.Domain.Punycode

def digit (n : Nat) : Char := if n < 26 then Char.ofNat (0x61 + n) else Char.ofNat (0x16 + n)

def digitValue? (c : Char) : Option Nat :=
  if 'a' ≤ c && c ≤ 'z' then some (c.toNat - 0x61)
  else if 'A' ≤ c && c ≤ 'Z' then some (c.toNat - 0x41)
  else if Text.isDigit c then some (c.toNat - 0x16)
  else none

def isAscii (c : Char) : Bool := c.toNat < 0x80

/-- What a digit at a position has to be below to end its number. -/
def threshold (position bias : Nat) : Nat := min 26 (max 1 (position - bias))

theorem one_le_threshold (position bias : Nat) : 1 ≤ threshold position bias := by
  unfold threshold
  omega

def shrink (position delta : Nat) : Nat :=
  if 455 < delta then shrink (position + 36) (delta / 35)
  else position + 36 * delta / (delta + 38)
termination_by delta
decreasing_by exact Nat.div_lt_self (by omega) (by omega)

/-- The bias for the number after one, when so many characters are there. -/
def adapt (delta characters : Nat) (isFirst : Bool) : Nat :=
  let delta := if isFirst then delta / 700 else delta / 2
  shrink 0 (delta + delta / characters)

def firstBias : Nat := 72

def firstCode : Nat := 0x80

def writeNumber (bias position n : Nat) : Text :=
  let t := threshold position bias
  if n < t then [digit n]
  else digit (t + (n - t) % (36 - t)) :: writeNumber bias (position + 36) ((n - t) / (36 - t))
termination_by n
decreasing_by
  have := one_le_threshold position bias
  exact Nat.lt_of_le_of_lt (Nat.div_le_self _ _) (by omega)

/-- What was written so far: the numbers, how much was passed over since the last of them, and how
many characters are done with. -/
structure Progress where
  written : Text
  delta : Nat
  bias : Nat
  done : Nat
  isFirst : Bool

def Progress.pass (code : Nat) (p : Progress) (c : Char) : Progress :=
  if c.toNat < code then { p with delta := p.delta + 1 }
  else if c.toNat = code then
    ⟨p.written ++ writeNumber p.bias 36 p.delta, 0, adapt p.delta (p.done + 1) p.isFirst,
      p.done + 1, false⟩
  else p

/-- The numbers for code points from one on, in ascending order. -/
def writeFrom (label : Text) (code : Nat) (p : Progress) : List Nat → Text
  | [] => p.written
  | next :: rest =>
    let p := { p with delta := p.delta + (next - code) * (p.done + 1) }
    let p := label.foldl (Progress.pass next) p
    writeFrom label (next + 1) { p with delta := p.delta + 1 } rest

def encode (label : Text) : Text :=
  let plain := label.filter isAscii
  let others := (label.filter fun c => !isAscii c).map Char.toNat
  (if plain.isEmpty then [] else plain ++ ['-']) ++
    writeFrom label firstCode ⟨[], 0, firstBias, plain.length, true⟩
      (others.eraseDups.mergeSort (· ≤ ·))

/-- A number read on from a position with the weight of its digit, and what follows it. -/
def readNumber? (bias position weight sum : Nat) : Text → Option (Nat × Text)
  | [] => none
  | c :: rest =>
    match digitValue? c with
    | none => none
    | some n =>
      let t := threshold position bias
      if n < t then some (sum + n * weight, rest)
      else readNumber? bias (position + 36) (weight * (36 - t)) (sum + n * weight) rest

theorem length_of_readNumber? {bias position weight sum n : Nat} {s rest : Text}
    (h : readNumber? bias position weight sum s = some (n, rest)) : rest.length < s.length := by
  induction s generalizing position weight sum with
  | nil => simp [readNumber?] at h
  | cons c s ih =>
    simp only [readNumber?] at h
    split at h
    · simp at h
    · split at h
      · simp only [Option.some.injEq, Prod.mk.injEq] at h
        simp [h.2]
      · exact Nat.lt_succ_of_lt (ih h)

/-- Putting in the characters that numbers stand for, from a code point and a place on. -/
def insertFrom (label : Text) (code spot bias : Nat) (isFirst : Bool) (s : Text) : Option Text :=
  if s.isEmpty then some label
  else
    match h : readNumber? bias 36 1 0 s with
    | none => none
    | some (delta, rest) =>
      have := length_of_readNumber? h
      let room := label.length + 1
      let code := code + (spot + delta) / room
      let spot := (spot + delta) % room
      if code.isValidChar then
        insertFrom (label.take spot ++ Char.ofNat code :: label.drop spot) code (spot + 1)
          (adapt delta room isFirst) false rest
      else none
termination_by s.length

/-- The label that a text stands for. The last hyphen ends the ASCII characters. -/
def decode? (s : Text) : Option Text :=
  let numbers := (s.reverse.takeWhile (· ≠ '-')).reverse
  let plain := s.take (s.length - numbers.length - 1)
  insertFrom plain firstCode 0 firstBias true numbers

end RemoteShell.Domain.Punycode
