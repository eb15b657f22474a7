import Mathlib.Data.Nat.Digits.Defs
import RemoteShell.Json.Fault
import RemoteShell.Proofs.Outcome
import RemoteShell.Proofs.Text.Digits
import RemoteShell.Proofs.Value

set_option autoImplicit false

namespace RemoteShell

theorem Text.length_ofNat_readDigits {digits : Text} (hne : digits ≠ [])
    (h : ∀ c ∈ digits, isDigit c = true) :
    (ofNat (readDigits digits)).length ≤ digits.length := by
  have hfold (n : Nat) : digits.foldl (fun n c => 10 * n + digitValue c) n + 1 ≤
      (n + 1) * 10 ^ digits.length := by
    clear hne
    induction digits generalizing n with
    | nil => simp
    | cons c rest ih =>
      have hrest := ih (fun d hd => h d (List.mem_cons_of_mem _ hd)) (10 * n + digitValue c)
      have hc : digitValue c ≤ 9 := by
        have hdigit := h c List.mem_cons_self
        simp only [isDigit, Bool.and_eq_true, decide_eq_true_eq, Char.le_def] at hdigit
        have hle : c.toNat ≤ '9'.toNat := hdigit.2
        exact Nat.sub_le_sub_right hle '0'.toNat
      calc
        _ ≤ (10 * n + digitValue c + 1) * 10 ^ rest.length := hrest
        _ ≤ ((n + 1) * 10) * 10 ^ rest.length := Nat.mul_le_mul_right _ (by omega)
        _ = (n + 1) * 10 ^ (c :: rest).length := by
          rw [List.length_cons, Nat.pow_succ', Nat.mul_assoc]
  refine Nat.toDigits_length 10 _ _ (List.length_pos_iff.mpr hne) ?_
  have hzero := hfold 0
  rw [readDigits]
  omega

namespace Value

def isUnquotedHere : Value → Prop
  | .text _ => False
  | .map fields => fields = []
  | .int n => (Text.ofNat n.natAbs).length ≤ Numeral.mostDigits
  | _ => True

/-- Nothing in the value needs a quote where it is written, and its integers can be read. -/
def Unquoted (v : Value) : Prop := v.Everywhere isUnquotedHere

variable {v : Value}

theorem Unquoted.texts (h : v.Unquoted) (q : Points → Prop) : v.Texts q := by
  refine Everywhere.mono (fun w hw => ?_) v h
  cases w with
  | text s => exact hw.elim
  | map fields =>
    obtain rfl : fields = [] := hw
    exact fun key hkey => nomatch hkey
  | _ => trivial

theorem Unquoted.plain (h : v.Unquoted) (hreal : v.HasNoReal) : v.Plain := by
  refine Everywhere.mono (fun w hw => ?_) v (Everywhere.and v h hreal)
  obtain ⟨hhere, hreal⟩ := hw
  cases w with
  | int n => exact hhere
  | real x => exact absurd rfl (hreal x)
  | map fields =>
    obtain rfl : fields = [] := hhere
    exact ⟨List.nodup_nil, fun _ h => (nomatch h)⟩
  | null | bool | text | list => trivial

theorem Unquoted.ne_text (h : v.Unquoted) (s : Points) : v ≠ .text s := by
  rintro rfl
  exact h

end Value

namespace Json

theorem skipSpace_suffix (s : Text) : skipSpace s <:+ s := List.dropWhile_suffix isSpace

theorem readWhole_eq_some {s whole rest : Text} (h : readWhole s = some (whole, rest)) :
    whole ≠ [] ∧ (∀ c ∈ whole, Text.isDigit c = true) ∧ rest <:+ s := by
  unfold readWhole at h
  split at h
  · cases h
  · next c more =>
    split at h
    · cases h
      exact ⟨by simp, fun d hd => List.mem_singleton.mp hd ▸ rfl, List.suffix_cons ..⟩
    · split at h
      · next hc =>
        cases h
        refine ⟨?_, fun d hd => ?_, List.dropWhile_suffix _⟩
        · rw [List.takeWhile_cons_of_pos hc]
          exact List.cons_ne_nil _ _
        · exact List.all_eq_true.mp List.all_takeWhile d hd
      · cases h

theorem readFraction_suffix (s : Text) : (readFraction s).2 <:+ s := by
  unfold readFraction
  split
  · dsimp only
    split
    · exact List.suffix_refl _
    · exact (List.dropWhile_suffix _).trans (List.suffix_cons ..)
  · exact List.suffix_refl _

theorem readExponent_suffix (s : Text) : (readExponent s).2 <:+ s := by
  unfold readExponent
  split
  · exact List.suffix_refl _
  · next e rest =>
    split
    · have hdigits (body : Text) (hbody : body <:+ rest) :
          body.dropWhile Text.isDigit <:+ e :: rest :=
        ((List.dropWhile_suffix _).trans hbody).trans (List.suffix_cons ..)
      dsimp only
      split <;> dsimp only <;> split
      case isTrue | isTrue | isTrue => exact List.suffix_refl _
      · exact hdigits _ (List.suffix_cons ..)
      · exact hdigits _ (List.suffix_cons ..)
      · exact hdigits _ (List.suffix_refl _)
    · exact List.suffix_refl _

theorem takeMinus_suffix (s : Text) : (takeMinus s).2 <:+ s := by
  unfold takeMinus
  split
  · exact List.suffix_cons ..
  · exact List.suffix_refl _

theorem unquoted_readNumber {s rest : Text} {v : Value} (h : readNumber s = .ok (v, rest)) :
    v.Unquoted ∧ rest <:+ s := by
  unfold readNumber at h
  dsimp only at h
  split at h
  · cases h
  · next whole after hwhole =>
    obtain ⟨hne, hdigits, hafter⟩ := readWhole_eq_some hwhole
    have hsuffix : (readExponent (readFraction after).2).2 <:+ s :=
      (readExponent_suffix _).trans
        ((readFraction_suffix _).trans (hafter.trans (takeMinus_suffix s)))
    split at h
    · split at h
      · cases h
      · next hlength =>
        cases h
        refine ⟨?_, hsuffix⟩
        have hshort := Text.length_ofNat_readDigits hne hdigits
        change (Text.ofNat (Int.natAbs _)).length ≤ _
        split <;> simp only [Int.natAbs_neg, Int.natAbs_natCast] <;> omega
    · cases h
      exact ⟨trivial, hsuffix⟩

theorem unquoted_readWord? {constants : Bool} {s rest : Text} {v : Value}
    (h : readWord? constants s = some (v, rest)) : v.Unquoted ∧ rest <:+ s := by
  obtain ⟨w, hw, h⟩ := List.exists_of_findSome?_eq_some h
  split at h
  · cases h
    refine ⟨?_, List.drop_suffix _ _⟩
    have hwords : ∀ w ∈ words constants, w.2.Unquoted := by
      cases constants <;> simp [words, Value.Unquoted, Value.Everywhere, Value.isUnquotedHere]
    exact hwords w hw
  · cases h

theorem readFields_ne_ok {constants : Bool} {fuel : Nat} {s : Text} (hs : '"' ∉ s)
    (r : List (Points × Value) × Text) : readFields constants fuel s ≠ .ok r := by
  intro h
  cases fuel with
  | zero => cases h
  | succ fuel =>
    unfold readFields at h
    split at h
    · exact hs List.mem_cons_self
    · cases h

theorem not_mem_of_suffix {s t : Text} {c : Char} (h : s <:+ t) (ht : c ∉ t) : c ∉ s :=
  fun hs => ht (h.subset hs)

mutual

theorem unquoted_readValue {constants : Bool} : ∀ (fuel : Nat) {s rest : Text} {v : Value},
    '"' ∉ s → readValue constants fuel s = .ok (v, rest) → v.Unquoted ∧ rest <:+ s
  | 0, _, _, _, _, h => nomatch h
  | fuel + 1, s, rest, v, hs, h => by
    unfold readValue at h
    split at h
    · exact absurd List.mem_cons_self hs
    · next inner =>
      have hinner : skipSpace inner <:+ '[' :: inner :=
        (skipSpace_suffix inner).trans (List.suffix_cons ..)
      split at h
      · next after heq =>
        cases h
        rw [heq] at hinner
        exact ⟨⟨trivial, trivial⟩, (List.suffix_cons ..).trans hinner⟩
      · obtain ⟨⟨items, after⟩, hitems, h⟩ := Outcome.exists_ok_of_map h
        cases h
        obtain ⟨hall, hafter⟩ := unquoted_readItems fuel (not_mem_of_suffix hinner hs) hitems
        exact ⟨⟨trivial, hall⟩, hafter.trans hinner⟩
    · next inner =>
      have hinner : skipSpace inner <:+ '\x7b' :: inner :=
        (skipSpace_suffix inner).trans (List.suffix_cons ..)
      split at h
      · next after heq =>
        cases h
        rw [heq] at hinner
        exact ⟨⟨rfl, trivial⟩, (List.suffix_cons ..).trans hinner⟩
      · obtain ⟨fields, hfields, -⟩ := Outcome.exists_ok_of_map h
        exact absurd hfields (readFields_ne_ok (not_mem_of_suffix hinner hs) _)
    · split at h
      · next hword =>
        cases h
        exact unquoted_readWord? hword
      · exact unquoted_readNumber h

theorem unquoted_readItems {constants : Bool} : ∀ (fuel : Nat) {s rest : Text} {vs : List Value},
    '"' ∉ s → readItems constants fuel s = .ok (vs, rest) →
      Value.EverywhereItems Value.isUnquotedHere vs ∧ rest <:+ s
  | 0, _, _, _, _, h => nomatch h
  | fuel + 1, s, rest, vs, hs, h => by
    unfold readItems at h
    obtain ⟨⟨v, after⟩, hv, h⟩ := Outcome.exists_ok_of_bind h
    obtain ⟨hhere, hafter⟩ := unquoted_readValue fuel hs hv
    have hskip : skipSpace after <:+ s := (skipSpace_suffix after).trans hafter
    dsimp only at h
    split at h
    · next heq =>
      cases h
      rw [heq] at hskip
      exact ⟨⟨hhere, trivial⟩, (List.suffix_cons ..).trans hskip⟩
    · next more heq =>
      rw [heq] at hskip
      have hmore : skipSpace more <:+ s :=
        (skipSpace_suffix more).trans ((List.suffix_cons ..).trans hskip)
      obtain ⟨⟨ws, last⟩, hws, h⟩ := Outcome.exists_ok_of_map h
      cases h
      obtain ⟨hall, hlast⟩ := unquoted_readItems fuel (not_mem_of_suffix hmore hs) hws
      exact ⟨⟨hhere, hall⟩, hlast.trans hmore⟩
    · cases h

end

theorem unquoted_literal? {s : Text} {v : Value} (hs : '"' ∉ s) (h : literal? s = some v) :
    v.Unquoted := by
  unfold literal? at h
  split at h
  · cases h
  · cases hd : document false s with
    | error stop =>
      rw [hd] at h
      cases h
    | ok w =>
      rw [hd] at h
      cases h
      unfold document at hd
      obtain ⟨⟨w, rest⟩, hw, hd⟩ := Outcome.exists_ok_of_bind hd
      dsimp only at hd
      split at hd
      · cases hd
        exact (unquoted_readValue _ (not_mem_of_suffix (skipSpace_suffix s) hs) hw).1
      · cases hd

end Json

end RemoteShell
