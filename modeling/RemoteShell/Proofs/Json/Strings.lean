import RemoteShell.Json.Read
import RemoteShell.Json.Write
import RemoteShell.Proofs.Text.Digits
import RemoteShell.Proofs.Text.Points

set_option autoImplicit false

namespace RemoteShell.Json

theorem unit?_digits {n : Nat} (h : n < 0x10000) :
    unit? (Text.lowerHexDigit (n / 4096)) (Text.lowerHexDigit (n / 256))
      (Text.lowerHexDigit (n / 16)) (Text.lowerHexDigit n) = some n := by
  simp only [unit?, Text.hexValue?_lowerHexDigit, Option.bind_eq_bind, Option.bind_some,
    Option.pure_def, Option.some.injEq]
  omega

/-- A unit is read as such where the string goes on behind it. -/
theorem readString_unitEscape (start : Text) (p : Partial) {n : Nat} {rest : Text}
    (h : n < 0x10000) (hr : rest ≠ []) :
    readString start p (unitEscape n ++ rest) = readString start (p.pushUnit n) rest := by
  have hu := unit?_digits h
  simp only [unitEscape, Text.hexDigits_four, List.cons_append, List.nil_append]
  rw [readString, hu]
  simp [hr]

theorem readString_escape (start : Text) (p : Partial) {c e : Char} (rest : Text) (hc : c ≠ 'u')
    (he : plainEscape? c = some e) :
    readString start p ('\\' :: c :: rest) = readString start (p.push e) rest := by
  rw [readString]
  · simp [hc, he]
  · intro a b d e rest' h
    exact absurd h hc

theorem readString_plain (start : Text) (p : Partial) {c : Char} {rest : Text} (hq : c ≠ '"')
    (hb : c ≠ '\\') (hc : 0x20 ≤ c.toNat) (hr : rest ≠ []) :
    readString start p (c :: rest) = readString start (p.push c) rest := by
  rw [readString]
  · simp [hq, Nat.not_lt.mpr hc]
  · intro h
    exact hr h
  · intro a b d e rest' h
    exact absurd h hb
  · intro d rest' h
    exact absurd h hb

theorem readString_close (start : Text) (p : Partial) (rest : Text) :
    readString start p ('"' :: rest) = .ok (p.flush.reverse, rest) := by
  cases rest with
  | nil => rw [readString]; simp
  | cons c rest =>
    rw [readString]
    · simp
    · simp
    · intro a b d e rest' h
      exact absurd h (by decide)
    · intro d rest' h
      exact absurd h (by decide)

theorem isHighUnit_iff (n : Nat) : isHighUnit n = true ↔ 0xD800 ≤ n ∧ n < 0xDC00 := by
  simp [isHighUnit]

theorem isLowUnit_iff (n : Nat) : isLowUnit n = true ↔ 0xDC00 ≤ n ∧ n < 0xE000 := by
  simp [isLowUnit]

theorem toNat_cases (c : Char) :
    c.toNat < 0xD800 ∨ (0xDFFF < c.toNat ∧ c.toNat < 0x110000) := c.valid

theorem toNat_lt (c : Char) : c.toNat < 0x110000 := by
  have h := toNat_cases c
  omega

theorem not_unit (c : Char) : ¬isHighUnit c.toNat = true ∧ ¬isLowUnit c.toNat = true := by
  have h := toNat_cases c
  rw [isHighUnit_iff, isLowUnit_iff]
  omega

theorem ofUnit_toNat (c : Char) : ofUnit c.toNat = .char c := by
  have h : ¬(0xD800 ≤ c.toNat ∧ c.toNat < 0xE000) := by
    have hc := toNat_cases c
    omega
  rw [ofUnit, dif_neg h, Char.ofNat_toNat]

theorem ofUnit_unit (n : Fin 0x800) : ofUnit (Point.unit n) = .half n := by
  have h : 0xD800 ≤ Point.unit n ∧ Point.unit n < 0xE000 := by
    unfold Point.unit
    omega
  rw [ofUnit, dif_pos h]
  simp [Point.unit]

theorem exists_unit {n : Nat} (h : 0xD800 ≤ n ∧ n < 0xE000) : ∃ k, Point.unit k = n :=
  ⟨⟨n - 0xD800, by omega⟩, Nat.add_sub_cancel' h.1⟩

theorem isHighUnit_unit (n : Fin 0x800) :
    isHighUnit (Point.unit n) = (Point.half n).isHigh := by
  rw [Bool.eq_iff_iff, isHighUnit_iff, Point.isHigh, decide_eq_true_iff, Point.unit, Fin.lt_def]
  change _ ↔ n.val < 0x400
  omega

theorem isLowUnit_unit (n : Fin 0x800) : isLowUnit (Point.unit n) = (Point.half n).isLow := by
  rw [Bool.eq_iff_iff, isLowUnit_iff, Point.isLow, decide_eq_true_iff, Point.unit, Fin.le_def]
  change _ ↔ 0x400 ≤ n.val
  omega

def highUnit (n : Nat) : Nat := 0xD800 + (n - 0x10000) / 0x400

def lowUnit (n : Nat) : Nat := 0xDC00 + (n - 0x10000) % 0x400

theorem isHighUnit_highUnit {n : Nat} (h : n < 0x110000) : isHighUnit (highUnit n) = true := by
  rw [isHighUnit_iff, highUnit]
  omega

theorem isLowUnit_lowUnit (n : Nat) : isLowUnit (lowUnit n) = true := by
  rw [isLowUnit_iff, lowUnit]
  omega

theorem ofPair_units {c : Char} (h : 0x10000 ≤ c.toNat) :
    ofPair (highUnit c.toNat) (lowUnit c.toNat) = c := by
  have hn : 0x10000 + (highUnit c.toNat - 0xD800) * 0x400 + (lowUnit c.toNat - 0xDC00) =
      c.toNat := by
    rw [highUnit, lowUnit]
    omega
  rw [ofPair, hn, Char.ofNat_toNat]

theorem isLow_ofUnit (n : Nat) : (ofUnit n).isLow = isLowUnit n := by
  by_cases h : 0xD800 ≤ n ∧ n < 0xE000
  · obtain ⟨k, rfl⟩ := exists_unit h
    rw [ofUnit_unit, isLowUnit_unit]
  · have hlow : isLowUnit n = false := by
      rw [Bool.eq_false_iff, Ne, isLowUnit_iff]
      omega
    rw [hlow, ofUnit, dif_neg h]
    rfl

namespace Partial

/-- What a reader holds that has read some code points, the latest first: a half that may begin a
pair is held back. -/
def ofDone : Points → Partial
  | .half n :: rest =>
    if (Point.half n).isHigh then ⟨rest, some (Point.unit n)⟩ else ⟨.half n :: rest, none⟩
  | done => ⟨done, none⟩

theorem flush_ofDone (done : Points) : (ofDone done).flush = done := by
  unfold ofDone
  split
  · split
    · exact congrArg (· :: _) (ofUnit_unit _)
    · rfl
  · rfl

theorem push_ofDone (done : Points) (c : Char) :
    (ofDone done).push c = ofDone (.char c :: done) := by
  rw [push, flush_ofDone]
  rfl

theorem pushSingle_eq (p : Partial) (n : Nat) : p.pushSingle n = ofDone (ofUnit n :: p.flush) := by
  by_cases h : 0xD800 ≤ n ∧ n < 0xE000
  · obtain ⟨k, rfl⟩ := exists_unit h
    rw [pushSingle, ofUnit_unit, isHighUnit_unit, ofDone]
  · have hhigh : ¬isHighUnit n = true := by
      rw [isHighUnit_iff]
      omega
    rw [pushSingle, if_neg hhigh, ofUnit, dif_neg h]
    rfl

theorem high_ofDone {done : Points} {high : Nat} (h : (ofDone done).high = some high) :
    ∃ n rest, done = .half n :: rest ∧ (Point.half n).isHigh = true ∧ high = Point.unit n ∧
      (ofDone done).done = rest := by
  unfold ofDone at h ⊢
  split at h
  · next n rest =>
    split at h
    · next hn =>
      cases h
      exact ⟨n, rest, rfl, hn, rfl, by rw [if_pos hn]⟩
    · cases h
  · cases h

theorem pushUnit_single {done : Points} {n : Nat}
    (h : ∀ p ∈ done.head?, ¬(p.isHigh = true ∧ isLowUnit n = true)) :
    (ofDone done).pushUnit n = ofDone (ofUnit n :: done) := by
  have hsingle := pushSingle_eq (ofDone done) n
  rw [flush_ofDone] at hsingle
  unfold pushUnit
  split
  · next high hhigh =>
    obtain ⟨k, rest, rfl, hk, -, -⟩ := high_ofDone hhigh
    rw [if_neg fun hlow => h _ rfl ⟨hk, hlow⟩, hsingle]
  · exact hsingle

theorem pushUnit_pair (rest : Points) {k : Fin 0x800} {n : Nat}
    (hk : (Point.half k).isHigh = true) (h : isLowUnit n = true) :
    (ofDone (.half k :: rest)).pushUnit n = ofDone (.char (ofPair (Point.unit k) n) :: rest) := by
  rw [ofDone, if_pos hk]
  exact if_pos h

/-- What has been read has no pair of halves in it. -/
def IsApart (p : Partial) : Prop := ∃ done, p = ofDone done ∧ Points.IsApart done.reverse

theorem IsApart.flush {p : Partial} (h : p.IsApart) : Points.IsApart p.flush.reverse := by
  obtain ⟨done, rfl, hdone⟩ := h
  rwa [flush_ofDone]

theorem IsApart.push {p : Partial} (h : p.IsApart) (c : Char) : (p.push c).IsApart := by
  obtain ⟨done, rfl, hdone⟩ := h
  exact ⟨_, push_ofDone done c, hdone.reverse_cons fun _ _ hlow => Bool.false_ne_true hlow.2⟩

theorem IsApart.pushUnit {p : Partial} (h : p.IsApart) (n : Nat) : (p.pushUnit n).IsApart := by
  obtain ⟨done, rfl, hdone⟩ := h
  by_cases hpair : ∃ q ∈ done.head?, q.isHigh = true ∧ isLowUnit n = true
  · obtain ⟨q, hq, hhigh, hlow⟩ := hpair
    obtain ⟨rest, rfl⟩ := List.head?_eq_some_iff.mp hq
    cases q with
    | char c => cases hhigh
    | half k =>
      exact ⟨_, pushUnit_pair rest hhigh hlow, hdone.of_reverse_cons.reverse_cons
        fun _ _ hlow => Bool.false_ne_true hlow.2⟩
  · have hsingle : ∀ q ∈ done.head?, ¬(q.isHigh = true ∧ isLowUnit n = true) := fun q hq h =>
      hpair ⟨q, hq, h⟩
    exact ⟨_, pushUnit_single hsingle, hdone.reverse_cons (by rwa [isLow_ofUnit])⟩

end Partial

theorem isApart_readString {start s rest : Text} {r : Points} {p : Partial} (hp : p.IsApart)
    (h : readString start p s = .ok (r, rest)) : r.IsApart := by
  fun_induction readString start p s generalizing r rest with
  | case2 | case12 =>
    cases h
    exact hp.flush
  | case7 p a b c d s n _ _ ih => exact ih (hp.pushUnit n) h
  | case10 p c s _ _ e _ ih => exact ih (hp.push e) h
  | case14 p c s _ _ _ _ _ ih => exact ih (hp.push c) h
  | case1 | case3 | case4 | case5 | case6 | case8 | case9 | case11 | case13 => cases h

/-- A character beyond the sixteen-bit plane, from the two units it is written in. -/
theorem readString_pair (start : Text) (done : Points) {c : Char} (h : 0x10000 ≤ c.toNat)
    {rest : Text} (hr : rest ≠ []) :
    readString start (.ofDone done)
        (unitEscape (highUnit c.toNat) ++ (unitEscape (lowUnit c.toNat) ++ rest)) =
      readString start (.ofDone (.char c :: done)) rest := by
  have hc := toNat_lt c
  have hhigh := isHighUnit_highUnit hc
  have hlow := isLowUnit_lowUnit c.toNat
  obtain ⟨k, hk⟩ := exists_unit (n := highUnit c.toNat) (by rw [highUnit]; omega)
  have hnot : ¬isLowUnit (highUnit c.toNat) = true := by
    rw [isHighUnit_iff] at hhigh
    rw [isLowUnit_iff]
    omega
  rw [readString_unitEscape start _ (by rw [highUnit]; omega) (by simp [unitEscape]),
    readString_unitEscape start _ (by rw [lowUnit]; omega) hr,
    Partial.pushUnit_single fun _ _ h => hnot h.2, ← hk, ofUnit_unit,
    Partial.pushUnit_pair done (by rw [← isHighUnit_unit, hk, hhigh]) hlow, hk, ofPair_units h]

theorem readString_writeChar (start : Text) (done : Points) (c : Char) {rest : Text}
    (hr : rest ≠ []) : readString start (.ofDone done) (writeChar c ++ rest) =
      readString start (.ofDone (.char c :: done)) rest := by
  rw [← Partial.push_ofDone]
  unfold writeChar
  split
  next h =>
    obtain rfl | rfl := h
    all_goals exact readString_escape start _ rest (by decide) rfl
  split
  next h => subst h; exact readString_escape start _ rest (by decide) rfl
  split
  next h => subst h; exact readString_escape start _ rest (by decide) rfl
  split
  next h => subst h; exact readString_escape start _ rest (by decide) rfl
  split
  next h => subst h; exact readString_escape start _ rest (by decide) rfl
  split
  next h => subst h; exact readString_escape start _ rest (by decide) rfl
  next hq _ _ _ _ _ =>
    rw [not_or] at hq
    split
    next h => exact readString_plain start _ hq.1 hq.2 h.1 hr
    split
    next h =>
      rw [readString_unitEscape start _ h hr,
        Partial.pushUnit_single fun _ _ hlow => (not_unit c).2 hlow.2, ofUnit_toNat,
        Partial.push_ofDone]
    next h =>
      rw [List.append_assoc, Partial.push_ofDone]
      exact readString_pair start done (Nat.le_of_not_lt h) hr

theorem readString_writePoint (start : Text) {done : Points} {p : Point} {rest : Text}
    (hp : ∀ q ∈ done.head?, ¬(q.isHigh = true ∧ p.isLow = true)) (hr : rest ≠ []) :
    readString start (.ofDone done) (writePoint p ++ rest) =
      readString start (.ofDone (p :: done)) rest := by
  cases p with
  | char c => exact readString_writeChar start done c hr
  | half n =>
    have hn : Point.unit n < 0x10000 := by
      unfold Point.unit
      omega
    rw [writePoint, readString_unitEscape start _ hn hr,
      Partial.pushUnit_single (by rwa [isLowUnit_unit]), ofUnit_unit]

theorem readString_flatMap (start : Text) (done s : Points) (rest : Text)
    (h : Points.IsApart (done.reverse ++ s)) :
    readString start (.ofDone done) (s.flatMap writePoint ++ '"' :: rest) =
      .ok (done.reverse ++ s, rest) := by
  induction s generalizing done with
  | nil => simp [readString_close, Partial.flush_ofDone]
  | cons p s ih =>
    have hp : ∀ q ∈ done.head?, ¬(q.isHigh = true ∧ p.isLow = true) := fun q hq =>
      (List.isChain_append.mp h).2.2 q (by rwa [List.getLast?_reverse]) p rfl
    rw [List.flatMap_cons, List.append_assoc, readString_writePoint start hp (by simp),
      ih (p :: done) (by simpa using h)]
    simp

/-- A string, from behind its opening quote. -/
theorem readString_write (start : Text) {s : Points} (hs : s.IsApart) (rest : Text) :
    readString start ⟨[], none⟩ (s.flatMap writePoint ++ '"' :: rest) = .ok (s, rest) :=
  readString_flatMap start [] s rest hs

end RemoteShell.Json
