import RemoteShell.Text.Quoted

set_option autoImplicit false

namespace RemoteShell

/-- A code point of a string: a character, or half of a surrogate pair that stands on its own. -/
inductive Point where
  | char (c : Char)
  | half (n : Fin 0x800)
  deriving DecidableEq, Repr

/-- Strings as JSON has them. A `Text` has characters only. -/
abbrev Points := List Point

namespace Point

/-- The sixteen-bit unit of a half. The lower ones begin a pair and the others end it. -/
def unit (n : Fin 0x800) : Nat := 0xD800 + n

def isHalf : Point → Bool
  | .char _ => false
  | .half _ => true

def isHigh : Point → Bool
  | .char _ => false
  | .half n => n < 0x400

def isLow : Point → Bool
  | .char _ => false
  | .half n => 0x400 ≤ n

def escapeHalf (n : Fin 0x800) : Text := '\\' :: 'u' :: Text.hexDigits 4 (unit n)

def char? : Point → Option Char
  | .char c => some c
  | .half _ => none

/-- A half is shown as the character that stands for what cannot be shown. -/
def toChar : Point → Char
  | .char c => c
  | .half _ => '\uFFFD'

end Point

namespace Points

def ofText (s : Text) : Points := s.map .char

def toText (s : Points) : Text := s.map Point.toChar

def text? (s : Points) : Option Text := s.mapM Point.char?

def quoted (s : Points) : Text :=
  let quote := Text.quoteFor s.toText
  quote :: s.flatMap (fun p =>
    match p with
    | .char c => Text.escapeChar quote c
    | .half n => Point.escapeHalf n) ++ [quote]

/-- Why a string has no octets: the place of the first halves in it. -/
def encodingProblem? (s : Points) : Option Text :=
  match s.dropWhile fun p => !p.isHalf with
  | .half n :: rest =>
    let start := (s.takeWhile fun p => !p.isHalf).length
    let more := (rest.takeWhile Point.isHalf).length
    let place :=
      if more = 0 then
        " '".toList ++ Point.escapeHalf n ++ "' in position ".toList ++ Text.ofNat start
      else "s in position ".toList ++ Text.ofNat start ++ '-' :: Text.ofNat (start + more)
    some ("'utf-8' codec can't encode character".toList ++ place ++
      ": surrogates not allowed".toList)
  | _ => none

instance : Coe Text Points := ⟨ofText⟩

@[simp] theorem toText_ofText (s : Text) : (ofText s).toText = s := by
  rw [ofText, toText, List.map_map]
  exact List.map_id s

@[simp] theorem length_ofText (s : Text) : (ofText s).length = s.length := List.length_map _

@[simp] theorem char_mem_ofText {c : Char} {s : Text} : .char c ∈ ofText s ↔ c ∈ s := by
  simp [ofText]

theorem ofText_injective {s t : Text} (h : ofText s = ofText t) : s = t := by
  rw [← toText_ofText s, h, toText_ofText]

@[simp] theorem ofText_inj {s t : Text} : ofText s = ofText t ↔ s = t :=
  ⟨ofText_injective, congrArg ofText⟩

end Points

end RemoteShell
