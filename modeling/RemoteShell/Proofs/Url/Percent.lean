import RemoteShell.Url.Percent
import RemoteShell.Proofs.Text.Digits
import RemoteShell.Proofs.Text.Utf8

set_option autoImplicit false

namespace RemoteShell.Url

def takeOctet : Text → Option (UInt8 × Text)
  | a :: b :: rest =>
    match Text.hexValue? a, Text.hexValue? b with
    | some high, some low => some (.ofNat (16 * high + low), rest)
    | _, _ => none
  | _ => none

def HasOctet (t : Text) : Prop :=
  ∃ a b, ['%', a, b] <:+: t ∧ (Text.hexValue? a).isSome ∧ (Text.hexValue? b).isSome

theorem length_takeOctet {s rest : Text} {o : UInt8} (h : takeOctet s = some (o, rest)) :
    s.length = rest.length + 2 := by
  unfold takeOctet at h
  split at h
  · split at h
    · cases h; rfl
    · cases h
  · cases h

theorem hasOctet_of_takeOctet {s rest : Text} {o : UInt8} (h : takeOctet s = some (o, rest)) :
    HasOctet ('%' :: s) := by
  unfold takeOctet at h
  split at h
  · next a b rest =>
    split at h
    · next high low ha hb => exact ⟨a, b, ⟨[], rest, rfl⟩, by simp [ha], by simp [hb]⟩
    · cases h
  · cases h

theorem HasOctet.cons {s : Text} (h : HasOctet s) (c : Char) : HasOctet (c :: s) := by
  obtain ⟨a, b, hs, hab⟩ := h
  exact ⟨a, b, List.infix_cons hs, hab⟩

theorem HasOctet.of_cons {c : Char} {s : Text} (h : HasOctet (c :: s))
    (hc : c = '%' → takeOctet s = none) : HasOctet s := by
  obtain ⟨a, b, hs, ha, hb⟩ := h
  rcases List.infix_cons_iff.mp hs with ⟨rest, hrest⟩ | hs
  · obtain ⟨rfl, rfl⟩ := List.cons.inj hrest
    obtain ⟨high, ha⟩ := Option.isSome_iff_exists.mp ha
    obtain ⟨low, hb⟩ := Option.isSome_iff_exists.mp hb
    have hnone := hc rfl
    simp [takeOctet, ha, hb] at hnone
  · exact ⟨a, b, hs, ha, hb⟩

theorem not_hasOctet_nil : ¬HasOctet [] := by
  rintro ⟨a, b, hs, -⟩
  exact absurd (List.infix_nil.mp hs) (List.cons_ne_nil _ _)

theorem percentOctets_octet {s rest : Text} {o : UInt8} (h : takeOctet s = some (o, rest)) :
    percentOctets ('%' :: s) = o :: percentOctets rest := by
  unfold takeOctet at h
  split at h
  · split at h
    · next high low ha hb =>
      cases h
      simp [percentOctets, ha, hb]
    · cases h
  · cases h

theorem percentOctets_char {c : Char} {s : Text} (h : c = '%' → takeOctet s = none) :
    percentOctets (c :: s) = Utf8.encodeChar c ++ percentOctets s := by
  match s with
  | [] => simp [percentOctets]
  | [d] => simp [percentOctets]
  | a :: b :: rest =>
    rw [percentOctets]
    split
    · next hc =>
      have hnone := h hc
      unfold takeOctet at hnone
      split
      · next high low ha hb => simp [ha, hb] at hnone
      · rfl
    · rfl

theorem octetInduction {P : Text → Prop} (nil : P [])
    (octet : ∀ s o rest, takeOctet s = some (o, rest) → P rest → P ('%' :: s))
    (char : ∀ c s, (c = '%' → takeOctet s = none) → P s → P (c :: s)) (t : Text) : P t := by
  generalize hn : t.length = n
  induction n using Nat.strongRecOn generalizing t with
  | ind n ih =>
    cases t with
    | nil => exact nil
    | cons c s =>
      rw [List.length_cons] at hn
      by_cases hc : c = '%' → takeOctet s = none
      · exact char c s hc (ih s.length (by omega) s rfl)
      · obtain ⟨rfl, hs⟩ := Classical.not_imp.mp hc
        obtain ⟨⟨o, rest⟩, ho⟩ := Option.ne_none_iff_exists'.mp hs
        have hlength := length_takeOctet ho
        exact octet s o rest ho (ih rest.length (by omega) rest rfl)

theorem percentOctets_of_not_hasOctet {t : Text} (h : ¬HasOctet t) :
    percentOctets t = Utf8.encode t := by
  induction t using octetInduction with
  | nil => rfl
  | octet s o rest hs _ => exact absurd (hasOctet_of_takeOctet hs) h
  | char c s hc ih =>
    rw [percentOctets_char hc, ih fun hs => h (hs.cons c)]
    rfl

theorem percentEncode_cons (keep : Char → Bool) (c : Char) (s : Text) :
    percentEncode keep (c :: s) =
      (if keep c then [c] else (Utf8.encodeChar c).flatMap percentOctet) ++
        percentEncode keep s := rfl

theorem percentEncode_kept {keep : Char → Bool} {c : Char} (h : keep c = true) (s : Text) :
    percentEncode keep (c :: s) = c :: percentEncode keep s := by
  rw [percentEncode_cons, if_pos h, List.singleton_append]

theorem takeOctet_percentOctet (b : UInt8) (rest : Text) :
    takeOctet ((percentOctet b).tail ++ rest) = some (b, rest) := by
  have hb : 16 * (b.toNat / 16 % 16) + b.toNat % 16 = b.toNat := by
    have := b.toNat_lt
    omega
  simp only [percentOctet, List.tail_cons, List.cons_append, List.nil_append, takeOctet,
    Text.hexValue?_upperHexDigit, hb, UInt8.ofNat_toNat]

theorem percentOctets_percentOctet (octets : Octets) (rest : Text) :
    percentOctets (octets.flatMap percentOctet ++ rest) = octets ++ percentOctets rest := by
  induction octets with
  | nil => rfl
  | cons b octets ih =>
    have hb : percentOctet b = '%' :: (percentOctet b).tail := rfl
    rw [List.flatMap_cons, List.append_assoc, hb, List.cons_append,
      percentOctets_octet (takeOctet_percentOctet b _), ih, List.cons_append]

theorem isPathChar_of_hexValue? {c : Char} (h : (Text.hexValue? c).isSome) :
    isPathChar c = true := by
  have hall : ∀ n < 0x80, (Text.hexValue? (Char.ofNat n)).isSome → isPathChar (Char.ofNat n) := by
    decide
  have hc : c.toNat < 0x80 := by
    unfold Text.hexValue? at h
    simp only [Bool.and_eq_true, decide_eq_true_eq, Char.le_def, UInt32.le_iff_toNat_le] at h
    change c.val.toNat < 0x80
    grind
  rw [← Char.ofNat_toNat c] at h ⊢
  exact hall c.toNat hc h

theorem hexValue?_of_not_isPathChar {c : Char} (h : isPathChar c ≠ true) :
    Text.hexValue? c = none := by
  rw [← Option.not_isSome_iff_eq_none]
  exact fun hs => h (isPathChar_of_hexValue? hs)

theorem exists_percentEncode_cons {keep : Char → Bool} {c : Char} (h : keep c ≠ true) (s : Text) :
    ∃ rest, percentEncode keep (c :: s) = '%' :: rest := by
  obtain ⟨b, more, hc, -⟩ := Utf8.exists_encodeChar_cons c
  rw [percentEncode_cons, if_neg h, hc]
  exact ⟨_, rfl⟩

theorem takeOctet_of_first {a : Char} (h : Text.hexValue? a = none) (s : Text) :
    takeOctet (a :: s) = none := by
  cases s <;> simp [takeOctet, h]

theorem takeOctet_of_second {b : Char} (h : Text.hexValue? b = none) (a : Char) (s : Text) :
    takeOctet (a :: b :: s) = none := by
  simp [takeOctet, h]

theorem takeOctet_percentEncode (s : Text) :
    takeOctet (percentEncode isPathChar s) =
      (takeOctet s).map fun (o, rest) => (o, percentEncode isPathChar rest) := by
  have hpercent : Text.hexValue? '%' = none := by decide
  cases s with
  | nil => rfl
  | cons a s =>
    by_cases ha : isPathChar a = true
    · rw [percentEncode_kept ha]
      cases s with
      | nil => rfl
      | cons b rest =>
        by_cases hb : isPathChar b = true
        · rw [percentEncode_kept hb]
          simp only [takeOctet]
          cases Text.hexValue? a <;> cases Text.hexValue? b <;> rfl
        · obtain ⟨r, hr⟩ := exists_percentEncode_cons hb rest
          rw [hr, takeOctet_of_second hpercent,
            takeOctet_of_second (hexValue?_of_not_isPathChar hb), Option.map_none]
    · obtain ⟨r, hr⟩ := exists_percentEncode_cons ha s
      rw [hr, takeOctet_of_first hpercent, takeOctet_of_first (hexValue?_of_not_isPathChar ha),
        Option.map_none]

/-- Decoding a text and decoding it encoded are the same. -/
theorem percentOctets_percentEncode (t : Text) :
    percentOctets (percentEncode isPathChar t) = percentOctets t := by
  induction t using octetInduction with
  | nil => rfl
  | octet s o rest hs ih =>
    have he : takeOctet (percentEncode isPathChar s) = some (o, percentEncode isPathChar rest) := by
      rw [takeOctet_percentEncode, hs, Option.map_some]
    rw [percentEncode_kept (by decide), percentOctets_octet he, percentOctets_octet hs, ih]
  | char c s hc ih =>
    rw [percentOctets_char hc]
    by_cases hkeep : isPathChar c = true
    · have he : c = '%' → takeOctet (percentEncode isPathChar s) = none := by
        intro h
        rw [takeOctet_percentEncode, hc h, Option.map_none]
      rw [percentEncode_kept hkeep, percentOctets_char he, ih]
    · rw [percentEncode_cons, if_neg hkeep, percentOctets_percentOctet, ih]

/-- Whatever was begun before it, a text comes out no longer than it is, and shorter if it has an
encoded octet. -/
theorem length_decodeFrom_percentOctets (t : Text) (p? : Option Utf8.Pending)
    (h : ∀ p, p? = some p → p.Sound) :
    (Utf8.decodeFrom p? (percentOctets t)).length ≤ (Utf8.flush p?).length + t.length ∧
      (HasOctet t →
        (Utf8.decodeFrom p? (percentOctets t)).length < (Utf8.flush p?).length + t.length) := by
  induction t using octetInduction generalizing p? with
  | nil => cases p? <;> exact ⟨Nat.le_refl _, fun ht => absurd ht not_hasOctet_nil⟩
  | octet s o rest hs ih =>
    have hstep := Utf8.length_step p? o.toNat
    have hrest := (ih _ (Utf8.sound_step p? o.toNat)).1
    have hlength := length_takeOctet hs
    rw [percentOctets_octet hs, Utf8.decodeFrom_cons, List.length_append, List.length_cons]
    constructor
    · omega
    · intro _; omega
  | char c s hc ih =>
    obtain ⟨hle, hlt⟩ := ih none fun p hp => by cases hp
    rw [percentOctets_char hc, Utf8.decodeFrom_encodeChar h, List.length_append, List.length_cons,
      List.length_cons]
    -- After a whole character nothing is begun, and so nothing is left to flush.
    change _ ≤ 0 + s.length at hle
    constructor
    · omega
    · intro ht
      have hs : _ < 0 + s.length := hlt (ht.of_cons hc)
      omega

theorem length_percentDecode_le (t : Text) : (percentDecode t).length ≤ t.length := by
  have h := (length_decodeFrom_percentOctets t none fun p hp => by cases hp).1
  rwa [Utf8.flush, if_neg (by decide), List.length_nil, Nat.zero_add] at h

theorem percentDecode_eq_self_iff (t : Text) : percentDecode t = t ↔ ¬HasOctet t := by
  constructor
  · intro h ht
    have hlt := (length_decodeFrom_percentOctets t none fun p hp => by cases hp).2 ht
    rw [Utf8.flush, if_neg (by decide), List.length_nil, Nat.zero_add] at hlt
    exact absurd (congrArg List.length h) (Nat.ne_of_lt hlt)
  · intro h
    rw [percentDecode, percentOctets_of_not_hasOctet h, Utf8.decode_encode]

theorem percentDecode_percentEncode (t : Text) :
    percentDecode (percentEncode isPathChar t) = percentDecode t := by
  rw [percentDecode, percentOctets_percentEncode, percentDecode]

end RemoteShell.Url
