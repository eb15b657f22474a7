import Mathlib.Algebra.GroupWithZero.Nat
import Mathlib.Data.List.Perm.Subperm
import RemoteShell.Proofs.Assoc
import RemoteShell.Value

set_option autoImplicit false

namespace RemoteShell

namespace Assoc

variable {κ α : Type} {f : κ × α → Nat}

def weigh (f : κ × α → Nat) (m : List (κ × α)) : Nat := (m.map f).sum

theorem weigh_cons (e : κ × α) (m : List (κ × α)) : weigh f (e :: m) = f e + weigh f m :=
  List.sum_cons

theorem weigh_add (g h : κ × α → Nat) (m : List (κ × α)) :
    weigh (fun e => g e + h e) m = weigh g m + weigh h m := by
  induction m with
  | nil => rfl
  | cons e rest ih =>
    rw [weigh_cons, weigh_cons, weigh_cons, ih]
    omega

theorem weigh_one (m : List (κ × α)) : weigh (fun _ => 1) m = m.length := by
  rw [weigh, List.map_const', List.sum_replicate_nat, Nat.mul_one]

theorem eq_zero_of_weigh {m : List (κ × α)} (h : weigh f m = 0) {e : κ × α} (he : e ∈ m) :
    f e = 0 :=
  List.sum_eq_zero_iff_forall_eq_nat.mp h _ (List.mem_map_of_mem he)

variable [DecidableEq κ]

theorem weigh_put_le (key : κ) (value : α) (m : List (κ × α)) :
    weigh f (put key value m) ≤ weigh f m + f (key, value) := by
  induction m with
  | nil => exact Nat.le_of_eq (Nat.add_comm _ _)
  | cons e rest ih =>
    obtain ⟨k, v⟩ := e
    by_cases hk : k = key
    · subst hk
      rw [put, if_pos rfl, weigh_cons, weigh_cons]
      omega
    · rw [put, if_neg hk, weigh_cons, weigh_cons]
      omega

theorem weigh_putAll_le (entries base : List (κ × α)) :
    weigh f (putAll entries base) ≤ weigh f base + weigh f entries := by
  induction entries generalizing base with
  | nil => exact Nat.le_refl _
  | cons e rest ih =>
    have hput : weigh f (put e.1 e.2 base) ≤ weigh f base + f e := weigh_put_le e.1 e.2 base
    have hrest := ih (put e.1 e.2 base)
    rw [weigh_cons]
    change weigh f (putAll rest (put e.1 e.2 base)) ≤ _
    omega

theorem weigh_ofPairs_le (entries : List (κ × α)) :
    weigh f (ofPairs entries) ≤ weigh f entries := by
  have h : weigh f (ofPairs entries) ≤ 0 + weigh f entries := weigh_putAll_le entries []
  rwa [Nat.zero_add] at h

theorem weigh_eq {m n : List (κ × α)} (hm : (keys m).Nodup) (hn : (keys n).Nodup)
    (hlength : m.length = n.length)
    (h : ∀ e ∈ m, ∃ w, get? e.1 n = some w ∧ f e = f (e.1, w)) : weigh f m = weigh f n := by
  -- Seen from its key, an entry of either map weighs what the entry of the second map does.
  let g (key : κ) : Nat := (get? key n).elim 0 fun w => f (key, w)
  have hperm : (keys m).Perm (keys n) := by
    refine (hm.subperm ?_).perm_of_length_le (by simp [keys, hlength])
    intro key hkey
    obtain ⟨e, he, rfl⟩ := List.mem_map.mp hkey
    obtain ⟨w, hw, -⟩ := h e he
    exact List.mem_map.mpr ⟨_, mem_of_get? hw, rfl⟩
  have hleft : m.map f = (keys m).map g := by
    rw [keys, List.map_map]
    refine List.map_congr_left fun e he => ?_
    obtain ⟨w, hw, hf⟩ := h e he
    simp only [Function.comp_apply, g, hw, Option.elim_some, hf]
  have hright : n.map f = (keys n).map g := by
    rw [keys, List.map_map]
    refine List.map_congr_left fun e he => ?_
    simp only [Function.comp_apply, g, get?_of_mem hn he, Option.elim_some]
  rw [weigh, weigh, hleft, hright, (hperm.map g).sum_nat]

end Assoc

namespace Value

theorem same_text {v : Value} {s : Points} (h : v.same (.text s) = true) : v = .text s := by
  cases v with
  | text t => rw [same, beq_iff_eq] at h; rw [h]
  | _ => simp [same, whole?] at h

theorem exists_of_sameFields {fs gs : List (Points × Value)} (h : sameFields fs gs = true)
    {e : Points × Value} (he : e ∈ fs) : ∃ w, Assoc.get? e.1 gs = some w ∧ e.2.same w = true := by
  induction fs with
  | nil => cases he
  | cons f rest ih =>
    rw [sameFields, Bool.and_eq_true] at h
    rcases List.mem_cons.mp he with rfl | he
    · obtain ⟨h, -⟩ := h
      split at h
      · next w hw => exact ⟨w, hw, h⟩
      · cases h
    · exact ih h.2 he

theorem Fields.get?_ofAssoc (key : Text) (m : Assoc Value) :
    Assoc.get? (Points.ofText key) (ofAssoc m) = Assoc.get? key m := by
  induction m with
  | nil => rfl
  | cons e rest ih =>
    have hcons : ofAssoc (e :: rest) = (Points.ofText e.1, e.2) :: ofAssoc rest := rfl
    rw [hcons, Assoc.get?_cons, Assoc.get?_cons, ih]
    simp only [Points.ofText_inj]

theorem exists_of_same {m n : Assoc Value} (h : same (.map m) (.map n) = true) :
    m.length = n.length ∧ ∀ e ∈ m, ∃ w, Assoc.get? e.1 n = some w ∧ e.2.same w = true := by
  rw [same, Bool.and_eq_true, beq_iff_eq] at h
  obtain ⟨hlength, hfields⟩ := h
  refine ⟨by simpa [Fields.ofAssoc] using hlength, fun e he => ?_⟩
  obtain ⟨w, hw, hsame⟩ := exists_of_sameFields hfields (List.mem_map_of_mem he)
  exact ⟨w, by rwa [Fields.get?_ofAssoc] at hw, hsame⟩

def weight (a : Text → Nat) : Value → Nat
  | .text s => a s.toText
  | _ => 0

theorem weight_eq_of_same (a : Text → Nat) {v w : Value} (h : v.same w = true) :
    v.weight a = w.weight a := by
  cases w with
  | text s => rw [same_text h]
  | _ =>
    cases v with
    | text s => simp [same, whole?] at h
    | _ => rfl

theorem weigh_le_of_same {f : Text × Value → Nat} {entries m : Assoc Value}
    (hf : ∀ key v w, v.same w = true → f (key, v) = f (key, w)) (hm : (Assoc.keys m).Nodup)
    (h : same (.map (Fields.ofAssoc (Assoc.ofPairs entries))) (.map m) = true) :
    Assoc.weigh f m ≤ Assoc.weigh f entries := by
  obtain ⟨hlength, hall⟩ := exists_of_same h
  rw [← Assoc.weigh_eq (Assoc.nodup_keys_ofPairs entries) hm hlength fun e he => ?_]
  · exact Assoc.weigh_ofPairs_le entries
  · obtain ⟨w, hw, hsame⟩ := hall e he
    exact ⟨w, hw, hf e.1 e.2 w hsame⟩

end Value

end RemoteShell
