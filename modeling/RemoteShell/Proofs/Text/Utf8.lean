import RemoteShell.Text.Utf8

set_option autoImplicit false

namespace RemoteShell.Utf8

theorem lead_two {n : Nat} (hl : 0x80 ≤ n) (hu : n < 0x800) :
    lead (0xC0 + n / 0x40) = .opens ⟨1, 0x80, 0xBF, n / 0x40⟩ := by
  unfold lead
  rw [if_neg (by omega), if_neg (by omega), if_pos (by omega), Nat.add_sub_cancel_left]

theorem lead_three {n : Nat} (hl : 0x800 ≤ n) (hu : n < 0x10000)
    (hs : n < 0xD800 ∨ 0xDFFF < n) : ∃ low high,
    lead (0xE0 + n / 0x1000) = .opens ⟨2, low, high, n / 0x1000⟩ ∧
      low ≤ 0x80 + n / 0x40 % 0x40 ∧ 0x80 + n / 0x40 % 0x40 ≤ high := by
  unfold lead
  rw [if_neg (by omega), if_neg (by omega), if_neg (by omega)]
  split
  · have hz : n / 0x1000 = 0 := by omega
    exact ⟨0xA0, 0xBF, by rw [hz], by omega, by omega⟩
  split
  · have hd : n / 0x1000 = 0xD := by omega
    exact ⟨0x80, 0x9F, by rw [hd], by omega, by omega⟩
  · rw [if_pos (by omega), Nat.add_sub_cancel_left]
    exact ⟨0x80, 0xBF, rfl, by omega, by omega⟩

theorem lead_four {n : Nat} (hl : 0x10000 ≤ n) (hu : n < 0x110000) : ∃ low high,
    lead (0xF0 + n / 0x40000) = .opens ⟨3, low, high, n / 0x40000⟩ ∧
      low ≤ 0x80 + n / 0x1000 % 0x40 ∧ 0x80 + n / 0x1000 % 0x40 ≤ high := by
  unfold lead
  rw [if_neg (by omega), if_neg (by omega), if_neg (by omega), if_neg (by omega),
    if_neg (by omega), if_neg (by omega)]
  split
  · have hz : n / 0x40000 = 0 := by omega
    exact ⟨0x90, 0xBF, by rw [hz], by omega, by omega⟩
  split
  · rw [Nat.add_sub_cancel_left]
    exact ⟨0x80, 0xBF, rfl, by omega, by omega⟩
  · have hf : n / 0x40000 = 4 := by omega
    rw [if_pos (by omega), hf]
    exact ⟨0x80, 0x8F, rfl, by omega, by omega⟩

theorem toNat_ofNat {n : Nat} (h : n < 0x100) : (UInt8.ofNat n).toNat = n := by
  rw [UInt8.toNat_ofNat', Nat.mod_eq_of_lt h]

/-- The octets that a character begun still needs to become `c`. -/
inductive Completes (c : Char) : Pending → Octets → Prop where
  | last {low high bits b : Nat} (hb : b < 0x100) (hl : low ≤ b) (hu : b ≤ high)
      (hc : Char.ofNat (bits * 0x40 + b % 0x40) = c) :
      Completes c ⟨1, low, high, bits⟩ [.ofNat b]
  | more {owed low high bits b : Nat} {rest : Octets} (hb : b < 0x100) (hl : low ≤ b)
      (hu : b ≤ high) (h : Completes c ⟨owed + 1, 0x80, 0xBF, bits * 0x40 + b % 0x40⟩ rest) :
      Completes c ⟨owed + 2, low, high, bits⟩ (.ofNat b :: rest)

theorem encodeChar_cases (c : Char) :
    (∃ b, encodeChar c = [b] ∧ lead b.toNat = .whole c) ∨
      ∃ b p rest, encodeChar c = b :: rest ∧ lead b.toNat = .opens p ∧ Completes c p rest := by
  have hvalid : c.toNat < 0xD800 ∨ 0xDFFF < c.toNat ∧ c.toNat < 0x110000 := c.valid
  have hc : Char.ofNat c.toNat = c := Char.ofNat_toNat c
  unfold encodeChar
  dsimp only
  generalize c.toNat = n at hvalid hc
  -- One to four octets. Three of them need `hvalid`: after some leads the range is narrower.
  split
  · refine .inl ⟨_, rfl, ?_⟩
    rw [toNat_ofNat (by omega), lead, if_pos (by omega), hc]
  split
  · have hb : n / 0x40 * 0x40 + (0x80 + n % 0x40) % 0x40 = n := by omega
    have hlast : Completes c ⟨1, 0x80, 0xBF, n / 0x40⟩ [.ofNat (0x80 + n % 0x40)] :=
      .last (by omega) (by omega) (by omega) (by rw [hb, hc])
    refine .inr ⟨_, _, _, rfl, ?_, hlast⟩
    rw [toNat_ofNat (by omega)]
    exact lead_two (by omega) (by omega)
  split
  · obtain ⟨low, high, hlead, hlow, hhigh⟩ :=
      lead_three (n := n) (by omega) (by omega) (by omega)
    have hb : (n / 0x1000 * 0x40 + (0x80 + n / 0x40 % 0x40) % 0x40) * 0x40 +
        (0x80 + n % 0x40) % 0x40 = n := by omega
    refine .inr ⟨_, _, _, rfl, ?_, .more (by omega) hlow hhigh
      (.last (by omega) (by omega) (by omega) (by rw [hb, hc]))⟩
    rw [toNat_ofNat (by omega)]
    exact hlead
  · obtain ⟨low, high, hlead, hlow, hhigh⟩ := lead_four (n := n) (by omega) (by omega)
    have hb : ((n / 0x40000 * 0x40 + (0x80 + n / 0x1000 % 0x40) % 0x40) * 0x40 +
        (0x80 + n / 0x40 % 0x40) % 0x40) * 0x40 + (0x80 + n % 0x40) % 0x40 = n := by omega
    refine .inr ⟨_, _, _, rfl, ?_, .more (by omega) hlow hhigh (.more (by omega) (by omega)
      (by omega) (.last (by omega) (by omega) (by omega) (by rw [hb, hc])))⟩
    rw [toNat_ofNat (by omega)]
    exact hlead

theorem decodeFrom_cons (p? : Option Pending) (b : UInt8) (rest : Octets) :
    decodeFrom p? (b :: rest) = (step p? b.toNat).1 ++ decodeFrom (step p? b.toNat).2 rest := rfl

theorem Completes.decodeFrom {c : Char} {p : Pending} {octets : Octets} (h : Completes c p octets)
    (rest : Octets) :
    decodeFrom (some p) (octets ++ rest) = c :: Utf8.decodeFrom none rest := by
  induction h with
  | @last low high bits b hb hl hu hc =>
    have hs : step (some ⟨1, low, high, bits⟩) b = ([c], none) := by
      simp [step, Pending.takes, Pending.next, hl, hu, hc]
    rw [List.singleton_append, decodeFrom_cons, toNat_ofNat hb, hs]
    rfl
  | @more owed low high bits b octets hb hl hu _ ih =>
    have hs : step (some ⟨owed + 2, low, high, bits⟩) b =
        ([], some ⟨owed + 1, 0x80, 0xBF, bits * 0x40 + b % 0x40⟩) := by
      simp [step, Pending.takes, Pending.next, hl, hu]
    rw [List.cons_append, decodeFrom_cons, toNat_ofNat hb, hs]
    exact ih

theorem decodeFrom_none_encodeChar (c : Char) (rest : Octets) :
    decodeFrom none (encodeChar c ++ rest) = c :: decodeFrom none rest := by
  rcases encodeChar_cases c with ⟨b, hb, hlead⟩ | ⟨b, p, octets, hb, hlead, hc⟩
  · rw [hb, List.singleton_append, decodeFrom_cons, step, start, hlead]
    rfl
  · rw [hb, List.cons_append, decodeFrom_cons, step, start, hlead]
    exact hc.decodeFrom rest

theorem decode_encode (s : Text) : decode (encode s) = s := by
  induction s with
  | nil => rfl
  | cons c s ih =>
    rw [encode, List.flatMap_cons, decode, decodeFrom_none_encodeChar]
    exact congrArg (c :: ·) ih

theorem Completes.strictFrom {c : Char} {p : Pending} {octets : Octets} (h : Completes c p octets)
    (read : Text) (first place index : Nat) (rest : Octets) :
    strictFrom read (some ⟨p, first, place⟩) index (octets ++ rest) =
      Utf8.strictFrom (c :: read) none (index + octets.length) rest := by
  induction h generalizing index with
  | @last low high bits b hb hl hu hc =>
    rw [List.singleton_append, Utf8.strictFrom, toNat_ofNat hb]
    simp [Pending.takes, Pending.next, hl, hu, hc]
  | @more owed low high bits b octets hb hl hu _ ih =>
    rw [List.cons_append, Utf8.strictFrom, toNat_ofNat hb, List.length_cons,
      Nat.add_comm octets.length, ← Nat.add_assoc, ← ih]
    simp [Pending.takes, Pending.next, hl, hu]

theorem strictFrom_encodeChar (read : Text) (index : Nat) (c : Char) (rest : Octets) :
    ∃ next, strictFrom read none index (encodeChar c ++ rest) =
      strictFrom (c :: read) none next rest := by
  rcases encodeChar_cases c with ⟨b, hb, hlead⟩ | ⟨b, p, octets, hb, hlead, hc⟩
  · rw [hb, List.singleton_append, strictFrom, hlead]
    exact ⟨_, rfl⟩
  · rw [hb, List.cons_append, strictFrom, hlead]
    exact ⟨_, hc.strictFrom read _ _ _ rest⟩

/-- What was encoded is accepted, and read as it was. -/
theorem strict_encode (s : Text) : strict (encode s) = .ok s := by
  have h (read : Text) (index : Nat) :
      strictFrom read none index (encode s) = .ok (read.reverse ++ s) := by
    induction s generalizing read index with
    | nil => rw [List.append_nil]; rfl
    | cons c s ih =>
      rw [encode, List.flatMap_cons]
      obtain ⟨next, hnext⟩ := strictFrom_encodeChar read index c (s.flatMap encodeChar)
      rw [hnext]
      change strictFrom (c :: read) none next (encode s) = _
      rw [ih, List.reverse_cons, List.append_assoc, List.singleton_append]
  exact h [] 0

/-- What a character begun leaves when nothing of it follows. -/
def flush (p? : Option Pending) : Text := if p?.isSome then [replacement] else []

/-- A character begun that takes no octet with which another one could start. -/
def Pending.Sound (p : Pending) : Prop := 0x80 ≤ p.low ∧ p.high ≤ 0xBF

theorem sound_of_lead {b : Nat} {p : Pending} (h : lead b = .opens p) : p.Sound := by
  unfold lead at h
  repeat' split at h
  all_goals cases h
  all_goals simp [Pending.Sound]

theorem sound_start (b : Nat) (q : Pending) (h : (start b).2 = some q) : q.Sound := by
  unfold start at h
  split at h
  · cases h
  · next hlead => cases h; exact sound_of_lead hlead
  · cases h

theorem sound_step (p? : Option Pending) (b : Nat) (q : Pending) (h : (step p? b).2 = some q) :
    q.Sound := by
  unfold step at h
  split at h
  · exact sound_start b q h
  · split at h
    · dsimp only at h
      split at h
      · cases h
      · cases h
        exact ⟨Nat.le_refl _, Nat.le_refl _⟩
    · exact sound_start b q h

theorem length_start (b : Nat) : (start b).1.length + (flush (start b).2).length = 1 := by
  unfold start
  split <;> rfl

theorem length_step (p? : Option Pending) (b : Nat) :
    (step p? b).1.length + (flush (step p? b).2).length ≤ 1 + (flush p?).length := by
  have hstart := length_start b
  unfold step
  split
  · omega
  · split
    · dsimp only
      split <;> simp [flush]
    · simp only [List.length_cons, flush, Option.isSome_some, if_true] at hstart ⊢
      omega

theorem exists_encodeChar_cons (c : Char) :
    ∃ b rest, encodeChar c = b :: rest ∧ (b.toNat < 0x80 ∨ 0xBF < b.toNat) := by
  have hvalid : c.toNat < 0xD800 ∨ 0xDFFF < c.toNat ∧ c.toNat < 0x110000 := c.valid
  unfold encodeChar
  dsimp only
  generalize c.toNat = n at hvalid
  split
  · exact ⟨_, _, rfl, .inl (by rw [toNat_ofNat] <;> omega)⟩
  split
  · exact ⟨_, _, rfl, .inr (by rw [toNat_ofNat] <;> omega)⟩
  split
  · exact ⟨_, _, rfl, .inr (by rw [toNat_ofNat] <;> omega)⟩
  · exact ⟨_, _, rfl, .inr (by rw [toNat_ofNat] <;> omega)⟩

theorem decodeFrom_encodeChar {p? : Option Pending} (h : ∀ p, p? = some p → p.Sound) (c : Char)
    (rest : Octets) :
    decodeFrom p? (encodeChar c ++ rest) = flush p? ++ c :: decodeFrom none rest := by
  rw [← decodeFrom_none_encodeChar c rest]
  cases p? with
  | none => rfl
  | some p =>
    obtain ⟨b, more, hc, hb⟩ := exists_encodeChar_cons c
    have hp := h p rfl
    have htakes : p.takes b.toNat = false := by
      simp only [Pending.takes, Bool.and_eq_false_iff, decide_eq_false_iff_not]
      unfold Pending.Sound at hp
      omega
    rw [hc, List.cons_append, decodeFrom_cons, decodeFrom_cons]
    simp [step, htakes, flush]

end RemoteShell.Utf8
