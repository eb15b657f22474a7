import RemoteShell.Number.Limit
import RemoteShell.Proofs.Text.Points
import RemoteShell.Value

set_option autoImplicit false

namespace RemoteShell.Value

mutual

/-- A property of a value, of its items or fields, of theirs, and so on. -/
def Everywhere (p : Value → Prop) : Value → Prop
  | .list items => p (.list items) ∧ EverywhereItems p items
  | .map fields => p (.map fields) ∧ EverywhereFields p fields
  | v => p v

def EverywhereItems (p : Value → Prop) : List Value → Prop
  | [] => True
  | v :: rest => Everywhere p v ∧ EverywhereItems p rest

def EverywhereFields (p : Value → Prop) : List (Points × Value) → Prop
  | [] => True
  | (_, v) :: rest => Everywhere p v ∧ EverywhereFields p rest

end

theorem Everywhere.here {p : Value → Prop} {v : Value} (h : v.Everywhere p) : p v := by
  cases v with
  | list items => exact h.1
  | map fields => exact h.1
  | _ => exact h

mutual

theorem Everywhere.mono {p q : Value → Prop} (h : ∀ v, p v → q v) :
    ∀ v : Value, v.Everywhere p → v.Everywhere q
  | .list items, hv => ⟨h _ hv.1, EverywhereItems.mono h items hv.2⟩
  | .map fields, hv => ⟨h _ hv.1, EverywhereFields.mono h fields hv.2⟩
  | .null, hv => h _ hv
  | .bool _, hv => h _ hv
  | .int _, hv => h _ hv
  | .real _, hv => h _ hv
  | .text _, hv => h _ hv

theorem EverywhereItems.mono {p q : Value → Prop} (h : ∀ v, p v → q v) :
    ∀ vs : List Value, EverywhereItems p vs → EverywhereItems q vs
  | [], _ => trivial
  | v :: rest, hv => ⟨Everywhere.mono h v hv.1, EverywhereItems.mono h rest hv.2⟩

theorem EverywhereFields.mono {p q : Value → Prop} (h : ∀ v, p v → q v) :
    ∀ fs : List (Points × Value), EverywhereFields p fs → EverywhereFields q fs
  | [], _ => trivial
  | (_, v) :: rest, hv => ⟨Everywhere.mono h v hv.1, EverywhereFields.mono h rest hv.2⟩

end

mutual

theorem Everywhere.and {p q : Value → Prop} : ∀ v : Value, v.Everywhere p → v.Everywhere q →
    v.Everywhere fun w => p w ∧ q w
  | .list items, hp, hq => ⟨⟨hp.1, hq.1⟩, EverywhereItems.and items hp.2 hq.2⟩
  | .map fields, hp, hq => ⟨⟨hp.1, hq.1⟩, EverywhereFields.and fields hp.2 hq.2⟩
  | .null, hp, hq => ⟨hp, hq⟩
  | .bool _, hp, hq => ⟨hp, hq⟩
  | .int _, hp, hq => ⟨hp, hq⟩
  | .real _, hp, hq => ⟨hp, hq⟩
  | .text _, hp, hq => ⟨hp, hq⟩

theorem EverywhereItems.and {p q : Value → Prop} : ∀ vs : List Value, EverywhereItems p vs →
    EverywhereItems q vs → EverywhereItems (fun w => p w ∧ q w) vs
  | [], _, _ => trivial
  | v :: rest, hp, hq => ⟨Everywhere.and v hp.1 hq.1, EverywhereItems.and rest hp.2 hq.2⟩

theorem EverywhereFields.and {p q : Value → Prop} : ∀ fs : List (Points × Value),
    EverywhereFields p fs → EverywhereFields q fs → EverywhereFields (fun w => p w ∧ q w) fs
  | [], _, _ => trivial
  | (_, v) :: rest, hp, hq => ⟨Everywhere.and v hp.1 hq.1, EverywhereFields.and rest hp.2 hq.2⟩

end

/-- A value is plain if it can be written and read back: it is no real number, an integer has few
enough digits, a map has each key once, and no text or key has the halves of a pair side by side. -/
def isPlainHere : Value → Prop
  | .int n => (Text.ofNat n.natAbs).length ≤ Numeral.mostDigits
  | .real _ => False
  | .text s => s.IsApart
  | .map fields => (Assoc.keys fields).Nodup ∧ ∀ key ∈ Assoc.keys fields, key.IsApart
  | _ => True

def Plain (v : Value) : Prop := v.Everywhere isPlainHere

def hasTextsHere (q : Points → Prop) : Value → Prop
  | .text s => q s
  | .map fields => ∀ key ∈ Assoc.keys fields, q key
  | _ => True

def Texts (q : Points → Prop) (v : Value) : Prop := v.Everywhere (hasTextsHere q)

theorem hasTextsHere_mono {q r : Points → Prop} (h : ∀ s, q s → r s) (v : Value)
    (hv : hasTextsHere q v) : hasTextsHere r v := by
  cases v with
  | text s => exact h s hv
  | map fields => exact fun key hk => h key (hv key hk)
  | _ => trivial

theorem Texts.imp {q r : Points → Prop} (h : ∀ s, q s → r s) {v : Value} (hv : v.Texts q) :
    v.Texts r :=
  Everywhere.mono (hasTextsHere_mono h) v hv

def HasNoReal (v : Value) : Prop := v.Everywhere fun w => ∀ x, w ≠ .real x

def Spaceless (v : Value) : Prop := v.Texts fun s => .char ' ' ∉ s

mutual

def innerTexts : Value → List Points
  | .text s => [s]
  | .list items => itemTexts items
  | .map fields => fieldTexts fields
  | _ => []

def itemTexts : List Value → List Points
  | [] => []
  | v :: rest => innerTexts v ++ itemTexts rest

def fieldTexts : List (Points × Value) → List Points
  | [] => []
  | (key, v) :: rest => key :: (innerTexts v ++ fieldTexts rest)

end

variable {q : Points → Prop}

mutual

theorem texts_iff : ∀ v : Value, v.Texts q ↔ ∀ t ∈ v.innerTexts, q t
  | .null | .bool _ | .int _ | .real _ => iff_of_true trivial (List.forall_mem_nil _)
  | .text s => by simp [Texts, Everywhere, hasTextsHere, innerTexts]
  | .list items => by
    rw [Texts, Everywhere, everywhereItems_texts_iff items, innerTexts]
    exact and_iff_right trivial
  | .map fields => by
    rw [Texts, Everywhere, innerTexts, ← everywhereFields_texts_iff fields]
    rfl

theorem everywhereItems_texts_iff : ∀ vs : List Value,
    EverywhereItems (hasTextsHere q) vs ↔ ∀ t ∈ itemTexts vs, q t
  | [] => iff_of_true trivial (List.forall_mem_nil _)
  | v :: rest => by
    rw [EverywhereItems, everywhereItems_texts_iff rest, itemTexts, List.forall_mem_append,
      ← texts_iff v]
    rfl

theorem everywhereFields_texts_iff : ∀ fs : List (Points × Value),
    (∀ key ∈ Assoc.keys fs, q key) ∧ EverywhereFields (hasTextsHere q) fs ↔
      ∀ t ∈ fieldTexts fs, q t
  | [] => iff_of_true ⟨List.forall_mem_nil _, trivial⟩ (List.forall_mem_nil _)
  | (key, v) :: rest => by
    rw [fieldTexts, List.forall_mem_cons, List.forall_mem_append, ← texts_iff v,
      ← everywhereFields_texts_iff rest, EverywhereFields, Assoc.keys, List.map_cons,
      List.forall_mem_cons]
    exact ⟨fun ⟨⟨hkey, hkeys⟩, hv, hrest⟩ => ⟨hkey, hv, hkeys, hrest⟩,
      fun ⟨hkey, hv, hkeys, hrest⟩ => ⟨⟨hkey, hkeys⟩, hv, hrest⟩⟩

end

mutual

def equal : Value → Value → Bool
  | .null, .null => true
  | .bool a, .bool b => a == b
  | .int m, .int n => m == n
  | .real x, .real y => x == y
  | .text s, .text t => s == t
  | .list vs, .list ws => equalItems vs ws
  | .map fs, .map gs => equalFields fs gs
  | _, _ => false

def equalItems : List Value → List Value → Bool
  | [], [] => true
  | v :: vs, w :: ws => equal v w && equalItems vs ws
  | _, _ => false

def equalFields : List (Points × Value) → List (Points × Value) → Bool
  | [], [] => true
  | (key, v) :: fs, (key', w) :: gs => key == key' && equal v w && equalFields fs gs
  | _, _ => false

end

mutual

theorem equal_iff : ∀ v w : Value, equal v w = true ↔ v = w
  | .null, w | .bool _, w | .int _, w | .real _, w | .text _, w => by cases w <;> simp [equal]
  | .list vs, w => by cases w <;> simp [equal, equalItems_iff vs]
  | .map fs, w => by cases w <;> simp [equal, equalFields_iff fs]

theorem equalItems_iff : ∀ vs ws : List Value, equalItems vs ws = true ↔ vs = ws
  | [], ws => by cases ws <;> simp [equalItems]
  | v :: vs, ws => by cases ws <;> simp [equalItems, equal_iff v, equalItems_iff vs]

theorem equalFields_iff : ∀ fs gs : List (Points × Value), equalFields fs gs = true ↔ fs = gs
  | [], gs => by cases gs <;> simp [equalFields]
  | (key, v) :: fs, gs => by
    cases gs <;> simp [equalFields, equal_iff v, equalFields_iff fs, Prod.ext_iff]

end

instance : DecidableEq Value := fun v w => decidable_of_iff _ (equal_iff v w)

end RemoteShell.Value
