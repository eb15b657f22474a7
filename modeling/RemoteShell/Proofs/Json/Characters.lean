import RemoteShell.Json.Write
import RemoteShell.Proofs.Text.Digits
import RemoteShell.Proofs.Value

set_option autoImplicit false

namespace RemoteShell.Json

def frame : Text := "\"[]\x7b\x7d,:-nulltruefalse".toList

/-- The characters around and between texts, and those of numbers and words. -/
def IsFrame (c : Char) : Prop := Text.isDigit c = true ∨ c ∈ frame

variable {P : Char → Prop}

/-- A property of all characters that the code points of a text are written as. -/
def Escaped (P : Char → Prop) (s : Points) : Prop := ∀ p ∈ s, ∀ d ∈ writePoint p, P d

theorem forall_mem_writeText (hp : P '"') {s : Points} (hs : Escaped P s) :
    ∀ c ∈ writeText s, P c := by
  intro c hc
  simp only [writeText, List.cons_append, List.mem_cons, List.mem_append, List.mem_flatMap,
    List.not_mem_nil, or_false] at hc
  obtain rfl | ⟨d, hd, hc⟩ | rfl := hc
  · exact hp
  · exact hs d hd c hc
  · exact hp

theorem forall_mem_ofInt (hp : ∀ c, IsFrame c → P c) (n : Int) : ∀ c ∈ Text.ofInt n, P c := by
  have hd : ∀ c ∈ Text.ofNat n.natAbs, P c := fun c hc =>
    hp c (.inl (Text.isDigit_of_mem_ofNat hc))
  intro c hc
  rw [Text.ofInt] at hc
  split at hc
  · obtain rfl | hc := List.mem_cons.mp hc
    · exact hp '-' (.inr (by decide))
    · exact hd c hc
  · exact hd c hc

theorem forall_mem_word (hp : ∀ c, IsFrame c → P c) {word : Text} (hw : word ⊆ frame) :
    ∀ c ∈ word, P c :=
  fun c hc => hp c (.inr (hw hc))

mutual

theorem forall_mem_write (hp : ∀ c, IsFrame c → P c) : ∀ v : Value, v.Plain →
    v.Texts (Escaped P) → ∀ c ∈ write v, P c
  | .null, _, _ => forall_mem_word hp (by decide : "null".toList ⊆ frame)
  | .bool true, _, _ => forall_mem_word hp (by decide : "true".toList ⊆ frame)
  | .bool false, _, _ => forall_mem_word hp (by decide : "false".toList ⊆ frame)
  | .int n, _, _ => forall_mem_ofInt hp n
  | .real x, hv, _ => hv.here.elim
  | .text s, _, ht => forall_mem_writeText (hp _ (.inr (by decide))) ht.here
  | .list items, hv, ht => by
    intro c hc
    simp only [write, List.cons_append, List.mem_cons, List.mem_append, List.not_mem_nil,
      or_false] at hc
    obtain rfl | hc | rfl := hc
    · exact hp _ (.inr (by decide))
    · exact forall_mem_writeItems hp items hv.2 ht.2 c hc
    · exact hp _ (.inr (by decide))
  | .map fields, hv, ht => by
    intro c hc
    simp only [write, List.cons_append, List.mem_cons, List.mem_append, List.not_mem_nil,
      or_false] at hc
    obtain rfl | hc | rfl := hc
    · exact hp _ (.inr (by decide))
    · exact forall_mem_writeFields hp fields hv.2 ht.2 ht.here c hc
    · exact hp _ (.inr (by decide))

theorem forall_mem_writeItems (hp : ∀ c, IsFrame c → P c) : ∀ vs : List Value,
    Value.EverywhereItems Value.isPlainHere vs →
    Value.EverywhereItems (Value.hasTextsHere (Escaped P)) vs → ∀ c ∈ writeItems vs, P c
  | [], _, _ => by simp [writeItems]
  | [v], hv, ht => forall_mem_write hp v hv.1 ht.1
  | v :: w :: rest, hv, ht => by
    intro c hc
    simp only [writeItems, List.mem_append, List.mem_cons] at hc
    obtain hc | rfl | hc := hc
    · exact forall_mem_write hp v hv.1 ht.1 c hc
    · exact hp _ (.inr (by decide))
    · exact forall_mem_writeItems hp (w :: rest) hv.2 ht.2 c hc

theorem forall_mem_writeFields (hp : ∀ c, IsFrame c → P c) : ∀ fs : List (Points × Value),
    Value.EverywhereFields Value.isPlainHere fs →
    Value.EverywhereFields (Value.hasTextsHere (Escaped P)) fs →
    (∀ key ∈ Assoc.keys fs, Escaped P key) → ∀ c ∈ writeFields fs, P c
  | [], _, _, _ => by simp [writeFields]
  | [(key, v)], hv, ht, hk => by
    intro c hc
    simp only [writeFields, List.mem_append, List.mem_cons] at hc
    obtain hc | rfl | hc := hc
    · exact forall_mem_writeText (hp _ (.inr (by decide))) (hk key (by simp [Assoc.keys])) c hc
    · exact hp _ (.inr (by decide))
    · exact forall_mem_write hp v hv.1 ht.1 c hc
  | (key, v) :: g :: rest, hv, ht, hk => by
    intro c hc
    simp only [writeFields, List.mem_append, List.mem_cons] at hc
    obtain (hc | rfl | hc) | rfl | hc := hc
    · exact forall_mem_writeText (hp _ (.inr (by decide))) (hk key (by simp [Assoc.keys])) c hc
    · exact hp _ (.inr (by decide))
    · exact forall_mem_write hp v hv.1 ht.1 c hc
    · exact hp _ (.inr (by decide))
    · refine forall_mem_writeFields hp (g :: rest) hv.2 ht.2 ?_ c hc
      intro k hk'
      exact hk k (List.mem_cons_of_mem _ hk')

end

theorem escaped_of_writeText {s : Points} (h : ∀ c ∈ writeText s, P c) : Escaped P s := by
  intro c hc d hd
  refine h d ?_
  simp only [writeText, List.cons_append, List.mem_cons, List.mem_append, List.mem_flatMap]
  exact .inr (.inl ⟨c, hc, hd⟩)

mutual

theorem texts_of_write : ∀ v : Value, (∀ c ∈ write v, P c) → v.Texts (Escaped P)
  | .null, _ | .bool _, _ | .int _, _ | .real _, _ => trivial
  | .text _, h => escaped_of_writeText h
  | .list items, h => ⟨trivial, texts_of_writeItems items fun c hc => h c (by simp [write, hc])⟩
  | .map fields, h => texts_of_writeFields fields fun c hc => h c (by simp [write, hc])

theorem texts_of_writeItems : ∀ vs : List Value, (∀ c ∈ writeItems vs, P c) →
    Value.EverywhereItems (Value.hasTextsHere (Escaped P)) vs
  | [], _ => trivial
  | [v], h => ⟨texts_of_write v h, trivial⟩
  | v :: w :: rest, h =>
    ⟨texts_of_write v fun c hc => h c (by simp [writeItems, hc]),
      texts_of_writeItems (w :: rest) fun c hc => h c (by simp [writeItems, hc])⟩

theorem texts_of_writeFields : ∀ fs : List (Points × Value), (∀ c ∈ writeFields fs, P c) →
    (∀ key ∈ Assoc.keys fs, Escaped P key) ∧
      Value.EverywhereFields (Value.hasTextsHere (Escaped P)) fs
  | [], _ => ⟨List.forall_mem_nil _, trivial⟩
  | [(key, v)], h => by
    have hkey : Escaped P key := escaped_of_writeText fun c hc => h c (by simp [writeFields, hc])
    exact ⟨by simpa [Assoc.keys] using hkey,
      texts_of_write v fun c hc => h c (by simp [writeFields, hc]), trivial⟩
  | (key, v) :: g :: rest, h => by
    have hkey : Escaped P key := escaped_of_writeText fun c hc => h c (by simp [writeFields, hc])
    obtain ⟨hkeys, hrest⟩ := texts_of_writeFields (g :: rest) fun c hc =>
      h c (by simp [writeFields, hc])
    exact ⟨List.forall_mem_cons.mpr ⟨hkey, hkeys⟩,
      texts_of_write v fun c hc => h c (by simp [writeFields, hc]), hrest⟩

end

/-- A property of the frame holds of a whole text exactly if it holds of what the texts and keys in
the value are written as. -/
theorem forall_mem_write_iff (hp : ∀ c, IsFrame c → P c) {v : Value} (hv : v.Plain) :
    (∀ c ∈ write v, P c) ↔ ∀ t ∈ v.innerTexts, Escaped P t := by
  rw [← Value.texts_iff]
  exact ⟨texts_of_write v, forall_mem_write hp v hv⟩

theorem lowerHexDigit_ne_space (n : Nat) : Text.lowerHexDigit n ≠ ' ' := by
  intro h
  have hd := Text.hexValue?_lowerHexDigit n
  rw [h, show Text.hexValue? ' ' = none from rfl] at hd
  cases hd

theorem space_not_mem_unitEscape (n : Nat) : ' ' ∉ unitEscape n := by
  simp [unitEscape, Text.hexDigits_four, (lowerHexDigit_ne_space _).symm]

theorem ne_space_of_mem_writeChar {c : Char} (h : c ≠ ' ') : ∀ d ∈ writeChar c, d ≠ ' ' := by
  have hs : ' ' ∉ writeChar c := by
    unfold writeChar
    split
    next => simp [Ne.symm h]
    iterate 5
      split
      next => decide
    next =>
      split
      next => simp [Ne.symm h]
      split
      next => exact space_not_mem_unitEscape _
      next => simp [space_not_mem_unitEscape]
  rintro d hd rfl
  exact hs hd

theorem escaped_of_spaceless {s : Points} (h : .char ' ' ∉ s) : Escaped (· ≠ ' ') s := by
  intro p hp
  cases p with
  | char c =>
    apply ne_space_of_mem_writeChar
    rintro rfl
    exact h hp
  | half n =>
    rintro d hd rfl
    exact space_not_mem_unitEscape _ hd

theorem IsFrame.ne_space {c : Char} (h : IsFrame c) : c ≠ ' ' := by
  rintro rfl
  obtain h | h := h <;> exact absurd h (by decide)

theorem space_not_mem_write {v : Value} (hv : v.Plain) (hs : v.Spaceless) : ' ' ∉ write v := by
  have ht : v.Texts (Escaped (· ≠ ' ')) := Value.Texts.imp (fun _ => escaped_of_spaceless) hs
  intro h
  exact forall_mem_write (fun c hc => hc.ne_space) v hv ht ' ' h rfl

theorem space_mem_write_iff {v : Value} (hv : v.Plain) :
    ' ' ∈ write v ↔ ∃ t ∈ v.innerTexts, .char ' ' ∈ t := by
  have hescaped (t : Points) : Escaped (· ≠ ' ') t ↔ .char ' ' ∉ t :=
    ⟨fun h hspace => h (.char ' ') hspace ' ' (List.mem_singleton.mpr rfl) rfl, escaped_of_spaceless⟩
  have hiff := not_congr (forall_mem_write_iff (fun c hc => hc.ne_space) hv)
  simpa [hescaped] using hiff

def IsPrintable (c : Char) : Prop := 0x20 ≤ c.toNat ∧ c.toNat < 0x7F

instance (c : Char) : Decidable (IsPrintable c) := inferInstanceAs (Decidable (_ ∧ _))

theorem forall_isPrintable_of_all {s : Text} (h : s.all (decide <| IsPrintable ·) = true) :
    ∀ c ∈ s, IsPrintable c :=
  fun c hc => of_decide_eq_true (List.all_eq_true.mp h c hc)

theorem isPrintable_lowerHexDigit (n : Nat) : IsPrintable (Text.lowerHexDigit n) := by
  have hdigit : ∀ d < 16, IsPrintable (Nat.digitChar d) := by decide
  exact hdigit _ (Nat.mod_lt _ (by decide))

theorem isPrintable_of_mem_unitEscape {n : Nat} : ∀ c ∈ unitEscape n, IsPrintable c := by
  rw [unitEscape, Text.hexDigits_four]
  refine List.forall_mem_cons.mpr ⟨by decide, List.forall_mem_cons.mpr ⟨by decide, ?_⟩⟩
  simp [isPrintable_lowerHexDigit]

theorem isPrintable_of_mem_writeChar (c : Char) : ∀ d ∈ writeChar c, IsPrintable d := by
  unfold writeChar
  split
  next h => rcases h with rfl | rfl <;> exact forall_isPrintable_of_all (by decide)
  iterate 5
    split
    next => exact forall_isPrintable_of_all (by decide)
  next =>
    split
    next h => exact List.forall_mem_singleton.mpr h
    split
    next => exact isPrintable_of_mem_unitEscape
    next =>
      exact List.forall_mem_append.mpr
        ⟨isPrintable_of_mem_unitEscape, isPrintable_of_mem_unitEscape⟩

theorem isPrintable_of_mem_writePoint (p : Point) : ∀ d ∈ writePoint p, IsPrintable d := by
  cases p with
  | char c => exact isPrintable_of_mem_writeChar c
  | half n => exact isPrintable_of_mem_unitEscape

theorem IsFrame.isPrintable {c : Char} (h : IsFrame c) : IsPrintable c := by
  rcases h with h | h
  · simp only [Text.isDigit, Bool.and_eq_true, decide_eq_true_eq] at h
    have hlow : '0'.toNat ≤ c.toNat := h.1
    have hhigh : c.toNat ≤ '9'.toNat := h.2
    exact ⟨Nat.le_trans (by decide) hlow, Nat.lt_of_le_of_lt hhigh (by decide)⟩
  · exact forall_isPrintable_of_all (by decide) c h

theorem isPrintable_of_mem_write {v : Value} (hv : v.Plain) : ∀ c ∈ write v, IsPrintable c :=
  (forall_mem_write_iff (fun _ hc => hc.isPrintable) hv).mpr fun _ _ p _ =>
    isPrintable_of_mem_writePoint p

end RemoteShell.Json
