import RemoteShell.Json.Fault
import RemoteShell.Proofs.Assoc
import RemoteShell.Proofs.Json.Strings
import RemoteShell.Proofs.Outcome
import RemoteShell.Proofs.Value

set_option autoImplicit false

namespace RemoteShell.Json

/-- Behind a value there is nothing, or what separates or closes items and fields. -/
def AtEnd (s : Text) : Prop := ∀ c, s.head? = some c → c = ',' ∨ c = ']' ∨ c = '\x7d'

theorem atEnd_nil : AtEnd [] := by
  intro c h
  simp at h

theorem atEnd_cons {c : Char} {s : Text} (h : c = ',' ∨ c = ']' ∨ c = '\x7d') :
    AtEnd (c :: s) := by
  intro d hd
  obtain rfl : c = d := by simpa using hd
  exact h

theorem AtEnd.not_digit {s : Text} (h : AtEnd s) : s.head?.all fun c => !Text.isDigit c := by
  cases hs : s.head? with
  | none => rfl
  | some c => obtain rfl | rfl | rfl := h c hs <;> rfl

theorem takeWhile_digits {ds s : Text} (hd : ∀ c ∈ ds, Text.isDigit c = true) (hs : AtEnd s) :
    (ds ++ s).takeWhile Text.isDigit = ds ∧ (ds ++ s).dropWhile Text.isDigit = s := by
  rw [List.takeWhile_append_of_pos hd, List.dropWhile_append_of_pos hd]
  have h := hs.not_digit
  cases s with
  | nil => simp
  | cons c s =>
    have hc : Text.isDigit c = false := by simpa using h
    simp [hc]

theorem readWhole_ofNat (n : Nat) {s : Text} (hs : AtEnd s) :
    readWhole (Text.ofNat n ++ s) = some (Text.ofNat n, s) := by
  obtain rfl | hn := Nat.eq_zero_or_pos n
  · rfl
  · have hd : ∀ c ∈ Text.ofNat n, Text.isDigit c = true := fun c => Text.isDigit_of_mem_ofNat
    obtain ⟨ht, hr⟩ := takeWhile_digits hd hs
    have hz := Text.ofNat_head_ne_zero hn
    obtain ⟨c, t, hc⟩ := List.exists_cons_of_ne_nil (Text.ofNat_ne_nil n)
    rw [hc] at ht hr hd hz ⊢
    have h0 : c ≠ '0' := by simpa using hz
    rw [List.cons_append] at ht hr ⊢
    simp [readWhole, h0, hd c (by simp), ht, hr]

theorem readFraction_atEnd {s : Text} (hs : AtEnd s) : readFraction s = (none, s) := by
  cases s with
  | nil => rfl
  | cons c s => obtain rfl | rfl | rfl := hs c rfl <;> rfl

theorem readExponent_atEnd {s : Text} (hs : AtEnd s) : readExponent s = (none, s) := by
  cases s with
  | nil => rfl
  | cons c s => obtain rfl | rfl | rfl := hs c rfl <;> rfl

theorem readNumber_whole {s body whole rest : Text} {negative : Bool}
    (hs : takeMinus s = (negative, body))
    (hw : readWhole body = some (whole, rest)) (hr : AtEnd rest)
    (hl : whole.length ≤ Numeral.mostDigits) :
    readNumber s = .ok (.int (if negative then -(Text.readDigits whole : Int)
      else Text.readDigits whole), rest) := by
  unfold readNumber
  simp only [hs, hw, readFraction_atEnd hr, readExponent_atEnd hr, Option.isNone_none,
    Bool.and_self, if_true, if_neg (Nat.not_lt.mpr hl)]

theorem readNumber_ofInt (n : Int) {s : Text} (hs : AtEnd s)
    (hn : (Text.ofNat n.natAbs).length ≤ Numeral.mostDigits) :
    readNumber (Text.ofInt n ++ s) = .ok (.int n, s) := by
  have hw := readWhole_ofNat n.natAbs hs
  by_cases hneg : n < 0
  · have ht : takeMinus ('-' :: (Text.ofNat n.natAbs ++ s)) = (true, Text.ofNat n.natAbs ++ s) :=
      rfl
    rw [Text.ofInt, if_pos hneg, List.cons_append, readNumber_whole ht hw hs hn,
      Text.readDigits_ofNat, if_pos rfl, show -(n.natAbs : Int) = n by omega]
  · obtain ⟨c, t, hc⟩ := List.exists_cons_of_ne_nil (Text.ofNat_ne_nil n.natAbs)
    have hd : Text.isDigit c = true := Text.isDigit_of_mem_ofNat (by rw [hc]; simp)
    have hm : c ≠ '-' := by
      rintro rfl
      exact absurd hd (by decide)
    have ht : takeMinus (Text.ofNat n.natAbs ++ s) = (false, Text.ofNat n.natAbs ++ s) := by
      rw [hc, List.cons_append, takeMinus]
      intro r h
      exact absurd (List.cons.inj h).1 hm
    rw [Text.ofInt, if_neg hneg, readNumber_whole ht hw hs hn, Text.readDigits_ofNat,
      if_neg (by decide), show (n.natAbs : Int) = n by omega]

def Opens (c : Char) : Prop :=
  c = '[' ∨ c = '\x7b' ∨ c = '-' ∨ Text.isDigit c = true ∨ c = 'n' ∨ c = 't' ∨ c = 'f'

theorem Opens.not_space {c : Char} (h : Opens c) : isSpace c = false := by
  obtain rfl | rfl | rfl | h | rfl | rfl | rfl := h <;> try rfl
  simp only [isSpace, Bool.or_eq_false_iff, decide_eq_false_iff_not]
  refine ⟨⟨⟨?_, ?_⟩, ?_⟩, ?_⟩ <;> rintro rfl <;> exact absurd h (by decide)

theorem Opens.ne {c : Char} (h : Opens c) : c ≠ ']' ∧ c ≠ '\uFEFF' := by
  obtain rfl | rfl | rfl | h | rfl | rfl | rfl := h
  case inr.inr.inr.inl => constructor <;> rintro rfl <;> exact absurd h (by decide)
  all_goals decide

theorem ofInt_head (n : Int) :
    ∃ c r, Text.ofInt n = c :: r ∧ (c = '-' ∨ Text.isDigit c = true) := by
  obtain ⟨c, t, hc⟩ := List.exists_cons_of_ne_nil (Text.ofNat_ne_nil n.natAbs)
  by_cases hn : n < 0
  · exact ⟨'-', _, by rw [Text.ofInt, if_pos hn], .inl rfl⟩
  · refine ⟨c, t, by rw [Text.ofInt, if_neg hn, hc], .inr ?_⟩
    exact Text.isDigit_of_mem_ofNat (by rw [hc]; simp)

theorem write_opens {v : Value} (hv : v.Plain) (ht : ∀ s, v ≠ .text s) :
    ∃ c r, write v = c :: r ∧ Opens c := by
  cases v with
  | null => exact ⟨'n', _, rfl, by simp [Opens]⟩
  | bool b =>
    cases b with
    | false => exact ⟨'f', _, rfl, by simp [Opens]⟩
    | true => exact ⟨'t', _, rfl, by simp [Opens]⟩
  | int n =>
    obtain ⟨c, r, hc, hd⟩ := ofInt_head n
    refine ⟨c, r, by rw [write, hc], ?_⟩
    obtain rfl | hd := hd
    · simp [Opens]
    · exact .inr (.inr (.inr (.inl hd)))
  | real x => exact hv.here.elim
  | text s => exact absurd rfl (ht s)
  | list items => exact ⟨'[', _, rfl, .inl rfl⟩
  | map fields => exact ⟨'\x7b', _, rfl, .inr (.inl rfl)⟩

theorem write_ne_dashes {v : Value} (hv : v.Plain) (s : Text) : write v ≠ '-' :: '-' :: s := by
  intro h
  cases v with
  | null => exact absurd (List.cons.inj h).1 (by decide)
  | bool b => cases b <;> exact absurd (List.cons.inj h).1 (by decide)
  | int n =>
    have hd : '-' ∉ Text.ofNat n.natAbs := fun hm =>
      absurd (Text.isDigit_of_mem_ofNat hm) (by decide)
    rw [write, Text.ofInt] at h
    split at h
    next => exact hd (by rw [(List.cons.inj h).2]; simp)
    next => exact hd (by rw [h]; simp)
  | real x => exact hv.here
  | text s => exact absurd (List.cons.inj h).1 (by decide)
  | list items => exact absurd (List.cons.inj h).1 (by decide)
  | map fields => exact absurd (List.cons.inj h).1 (by decide)

theorem exists_head_write {v : Value} (hv : v.Plain) :
    ∃ c r, write v = c :: r ∧ isSpace c = false ∧ c ≠ ']' := by
  by_cases ht : ∃ s, v = .text s
  · obtain ⟨s, rfl⟩ := ht
    exact ⟨'"', _, rfl, rfl, by decide⟩
  · obtain ⟨c, r, hw, hc⟩ := write_opens hv fun s hs => ht ⟨s, hs⟩
    exact ⟨c, r, hw, hc.not_space, hc.ne.1⟩

theorem skipSpace_cons {c : Char} (s : Text) (h : isSpace c = false) :
    skipSpace (c :: s) = c :: s := by
  simp [skipSpace, h]

theorem readWord?_cons {c : Char} (s : Text) (h : c = '-' ∨ Text.isDigit c = true) :
    readWord? false (c :: s) = none := by
  have hc : c ≠ 'n' ∧ c ≠ 't' ∧ c ≠ 'f' := by
    obtain rfl | h := h
    · decide
    · refine ⟨?_, ?_, ?_⟩ <;> rintro rfl <;> exact absurd h (by decide)
  simp [readWord?, words, Text.hasPrefix, hc.1.symm, hc.2.1.symm, hc.2.2.symm]

theorem readValue_int (fuel : Nat) (n : Int) {tail : Text} (ht : AtEnd tail)
    (hn : (Text.ofNat n.natAbs).length ≤ Numeral.mostDigits) :
    readValue false (fuel + 1) (Text.ofInt n ++ tail) = .ok (.int n, tail) := by
  have hr := readNumber_ofInt n ht hn
  obtain ⟨c, r, hc, hd⟩ := ofInt_head n
  rw [hc, List.cons_append] at hr ⊢
  have hne : c ≠ '"' ∧ c ≠ '[' ∧ c ≠ '\x7b' := by
    obtain rfl | h := hd
    · decide
    · refine ⟨?_, ?_, ?_⟩ <;> rintro rfl <;> exact absurd h (by decide)
  rw [readValue, readWord?_cons _ hd]
  · exact hr
  · intro s h
    exact absurd (List.cons.inj h).1 hne.1
  · intro s h
    exact absurd (List.cons.inj h).1 hne.2.1
  · intro s h
    exact absurd (List.cons.inj h).1 hne.2.2

theorem readValue_text (constants : Bool) (fuel : Nat) {s : Points} (hs : s.IsApart) (tail : Text) :
    readValue constants (fuel + 1) (writeText s ++ tail) = .ok (.text s, tail) := by
  rw [writeText, List.cons_append, List.cons_append, List.append_assoc, readValue]
  rw [List.singleton_append, readString_write _ hs]
  rfl

theorem readValue_list {constants : Bool} (fuel : Nat) {c : Char} {s inner : Text}
    (hs : skipSpace s = c :: inner) (hc : c ≠ ']') :
    readValue constants (fuel + 1) ('[' :: s) =
      (readItems constants fuel (c :: inner)).map fun r => (.list r.1, r.2) := by
  rw [readValue, hs]
  split
  next h => exact absurd (List.cons.inj h).1 hc
  next => rfl

theorem readValue_map {constants : Bool} (fuel : Nat) {s inner : Text}
    (hs : skipSpace s = '"' :: inner) :
    readValue constants (fuel + 1) ('\x7b' :: s) =
      (readFields constants fuel ('"' :: inner)).map fun r => (.map (Assoc.ofPairs r.1), r.2) := by
  rw [readValue, hs]
  rfl

theorem write_length_pos {v : Value} (hv : v.Plain) : 0 < (write v).length := by
  obtain ⟨c, r, hw, _⟩ := exists_head_write hv
  simp [hw]

theorem writeItems_cons (v w : Value) (rest : List Value) :
    writeItems (v :: w :: rest) = write v ++ ',' :: writeItems (w :: rest) := rfl

theorem readItems_last {constants : Bool} (fuel : Nat) {v : Value} {s r tail : Text}
    (h : readValue constants fuel s = .ok (v, r)) (hr : skipSpace r = ']' :: tail) :
    readItems constants (fuel + 1) s = .ok ([v], tail) := by
  rw [readItems, h]
  simp only [Except.bind, hr]

theorem readItems_comma {constants : Bool} (fuel : Nat) {v : Value} {vs : List Value}
    {s r r' tail : Text} (h : readValue constants fuel s = .ok (v, r))
    (hr : skipSpace r = ',' :: r') (hs : readItems constants fuel (skipSpace r') = .ok (vs, tail)) :
    readItems constants (fuel + 1) s = .ok (v :: vs, tail) := by
  rw [readItems, h]
  simp only [Except.bind, hr, hs]
  rfl

theorem readFields_last {constants : Bool} (fuel : Nat) {key : Points} {v : Value}
    {s r r' tail : Text} (hk : readString ('"' :: s) ⟨[], none⟩ s = .ok (key, ':' :: r))
    (h : readValue constants fuel (skipSpace r) = .ok (v, r')) (hr : skipSpace r' = '\x7d' :: tail) :
    readFields constants (fuel + 1) ('"' :: s) = .ok ([(key, v)], tail) := by
  rw [readFields, hk]
  change (readValue constants fuel (skipSpace r)).bind _ = _
  rw [h]
  simp only [Except.bind, hr]

theorem readFields_comma (fuel : Nat) {key : Points} {v : Value} {fs : List (Points × Value)}
    {s r r' tail : Text} (hk : readString ('"' :: s) ⟨[], none⟩ s = .ok (key, ':' :: r))
    (hr : skipSpace r = r) (h : readValue false fuel r = .ok (v, ',' :: r'))
    (hr' : skipSpace r' = r') (hs : readFields false fuel r' = .ok (fs, tail)) :
    readFields false (fuel + 1) ('"' :: s) = .ok ((key, v) :: fs, tail) := by
  rw [readFields, hk]
  change (readValue false fuel (skipSpace r)).bind _ = _
  rw [hr, h]
  change (readFields false fuel (skipSpace r')).map _ = _
  rw [hr', hs]
  rfl

theorem skipSpace_write {v : Value} (hv : v.Plain) (s : Text) :
    skipSpace (write v ++ s) = write v ++ s := by
  obtain ⟨c, r, hw, hc, _⟩ := exists_head_write hv
  rw [hw, List.cons_append, skipSpace_cons _ hc]

theorem exists_head_writeItems {v : Value} (hv : v.Plain) (rest : List Value) :
    ∃ c r, writeItems (v :: rest) = c :: r ∧ isSpace c = false ∧ c ≠ ']' := by
  obtain ⟨c, r, hw, hc, hb⟩ := exists_head_write hv
  cases rest with
  | nil => exact ⟨c, r, hw, hc, hb⟩
  | cons w rest => exact ⟨c, _, by rw [writeItems_cons, hw]; rfl, hc, hb⟩

theorem writeFields_head (f : Points × Value) (rest : List (Points × Value)) :
    ∃ r, writeFields (f :: rest) = '"' :: r := by
  cases rest with
  | nil => exact ⟨_, rfl⟩
  | cons g rest => exact ⟨_, rfl⟩

mutual

/-- What is read is what was written, and what follows is left. Fuel for the length of the text is
enough; items and fields take one more, since reading them goes on after the last. -/
theorem readValue_write : ∀ (v : Value) (fuel : Nat) (tail : Text), v.Plain →
    (write v).length ≤ fuel → AtEnd tail →
    readValue false fuel (write v ++ tail) = .ok (v, tail)
  | v, 0, tail, hv, hf, _ => by
    have := write_length_pos hv
    omega
  | .null, fuel + 1, tail, _, _, _ => rfl
  | .bool true, fuel + 1, tail, _, _, _ => rfl
  | .bool false, fuel + 1, tail, _, _, _ => rfl
  | .int n, fuel + 1, tail, hv, _, ht => readValue_int fuel n ht hv.here
  | .real x, fuel + 1, tail, hv, _, _ => hv.here.elim
  | .text s, fuel + 1, tail, hv, _, _ => readValue_text false fuel hv.here tail
  | .list [], fuel + 1, tail, _, _, _ => rfl
  | .list (v :: rest), fuel + 1, tail, hv, hf, _ => by
    have hf : (writeItems (v :: rest)).length < fuel := by
      simp only [write, List.cons_append, List.length_cons, List.length_append,
        List.length_nil] at hf
      omega
    have hr := readItems_write (v :: rest) fuel tail (by simp) hv.2 hf
    obtain ⟨c, r, hw, hc, hb⟩ := exists_head_writeItems hv.2.1 rest
    rw [write, List.cons_append, List.cons_append, List.append_assoc, List.singleton_append]
    rw [hw, List.cons_append] at hr ⊢
    rw [readValue_list fuel (skipSpace_cons _ hc) hb, hr]
    rfl
  | .map [], fuel + 1, tail, _, _, _ => rfl
  | .map (f :: rest), fuel + 1, tail, hv, hf, _ => by
    have hf : (writeFields (f :: rest)).length < fuel := by
      simp only [write, List.cons_append, List.length_cons, List.length_append,
        List.length_nil] at hf
      omega
    have hr := readFields_write (f :: rest) fuel tail (by simp) hv.2 hv.here.2 hf
    obtain ⟨r, hw⟩ := writeFields_head f rest
    rw [write, List.cons_append, List.cons_append, List.append_assoc, List.singleton_append]
    rw [hw, List.cons_append] at hr ⊢
    rw [readValue_map fuel (skipSpace_cons _ rfl), hr, Outcome.map_ok,
      Assoc.ofPairs_of_nodup hv.here.1]

theorem readItems_write : ∀ (vs : List Value) (fuel : Nat) (tail : Text), vs ≠ [] →
    Value.EverywhereItems Value.isPlainHere vs → (writeItems vs).length < fuel →
    readItems false fuel (writeItems vs ++ ']' :: tail) = .ok (vs, tail)
  | [], _, _, hn, _, _ => absurd rfl hn
  | _, 0, _, _, _, hf => absurd hf (Nat.not_lt_zero _)
  | [v], fuel + 1, tail, _, hv, hf => by
    have hf : (write v).length ≤ fuel := by
      simp only [writeItems] at hf
      omega
    exact readItems_last fuel (readValue_write v fuel _ hv.1 hf (atEnd_cons (by simp)))
      (skipSpace_cons _ rfl)
  | v :: w :: rest, fuel + 1, tail, _, hv, hf => by
    simp only [writeItems, List.length_append, List.length_cons] at hf
    have hw := readItems_write (w :: rest) fuel tail (by simp) hv.2 (by omega)
    have hr := readValue_write v fuel (',' :: (writeItems (w :: rest) ++ ']' :: tail)) hv.1
      (by omega) (atEnd_cons (by simp))
    rw [writeItems_cons, List.append_assoc, List.cons_append]
    refine readItems_comma fuel hr (skipSpace_cons _ rfl) ?_
    obtain ⟨c, r, hc, hs, _⟩ := exists_head_writeItems hv.2.1 rest
    rw [hc, List.cons_append] at hw ⊢
    rwa [skipSpace_cons _ hs]

theorem readFields_write : ∀ (fs : List (Points × Value)) (fuel : Nat) (tail : Text), fs ≠ [] →
    Value.EverywhereFields Value.isPlainHere fs → (∀ key ∈ Assoc.keys fs, key.IsApart) →
    (writeFields fs).length < fuel →
    readFields false fuel (writeFields fs ++ '\x7d' :: tail) = .ok (fs, tail)
  | [], _, _, hn, _, _, _ => absurd rfl hn
  | _, 0, _, _, _, _, hf => absurd hf (Nat.not_lt_zero _)
  | [(key, v)], fuel + 1, tail, _, hv, hk, hf => by
    have hkey : key.IsApart := hk key List.mem_cons_self
    simp only [writeFields, List.length_append, List.length_cons] at hf
    have hr := readValue_write v fuel ('\x7d' :: tail) hv.1 (by omega) (atEnd_cons (by simp))
    have hk := readString_write (writeText key ++ ':' :: (write v ++ '\x7d' :: tail)) hkey
      (':' :: (write v ++ '\x7d' :: tail))
    rw [writeText, List.cons_append, List.cons_append, List.append_assoc] at hk
    rw [← skipSpace_write hv.1] at hr
    have h := readFields_last fuel hk hr (skipSpace_cons _ rfl)
    simpa [writeFields, writeText] using h
  | (key, v) :: g :: rest, fuel + 1, tail, _, hv, hk, hf => by
    have hkey : key.IsApart := hk key List.mem_cons_self
    have hkeys : ∀ other ∈ Assoc.keys (g :: rest), Points.IsApart other := fun other hother =>
      hk other (List.mem_cons_of_mem _ hother)
    simp only [writeFields, List.length_append, List.length_cons] at hf
    have hg := readFields_write (g :: rest) fuel tail (by simp) hv.2 hkeys (by omega)
    have hr := readValue_write v fuel (',' :: (writeFields (g :: rest) ++ '\x7d' :: tail)) hv.1
      (by omega) (atEnd_cons (by simp))
    have hk := readString_write (writeText key ++ ':' :: (write v ++
      ',' :: (writeFields (g :: rest) ++ '\x7d' :: tail))) hkey
      (':' :: (write v ++ ',' :: (writeFields (g :: rest) ++ '\x7d' :: tail)))
    rw [writeText, List.cons_append, List.cons_append, List.append_assoc] at hk
    have hs : skipSpace (writeFields (g :: rest) ++ '\x7d' :: tail) =
        writeFields (g :: rest) ++ '\x7d' :: tail := by
      obtain ⟨r, hw⟩ := writeFields_head g rest
      rw [hw, List.cons_append, skipSpace_cons _ rfl]
    have h := readFields_comma fuel hk (skipSpace_write hv.1 _) hr hs hg
    simpa [writeFields, writeText] using h

end

theorem document_write {v : Value} (hv : v.Plain) : document false (write v) = .ok v := by
  have h := readValue_write v (2 * (write v).length + 2) [] hv (by omega) atEnd_nil
  have hs := skipSpace_write hv []
  rw [List.append_nil] at h hs
  rw [document, hs, h]
  rfl

theorem literal?_write {v : Value} (hv : v.Plain) : literal? (write v) = some v := by
  rw [literal?]
  · rw [document_write hv]
    rfl
  · intro r h
    by_cases ht : ∃ s, v = .text s
    · obtain ⟨s, rfl⟩ := ht
      exact absurd (List.cons.inj h).1 (by decide)
    · obtain ⟨c, t, hw, hc⟩ := write_opens hv fun s hs => ht ⟨s, hs⟩
      rw [hw] at h
      exact absurd (List.cons.inj h).1 hc.ne.2

end RemoteShell.Json
