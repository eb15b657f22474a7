import RemoteShell.Proofs.Assoc
import RemoteShell.Proofs.Json.Strings
import RemoteShell.Proofs.Json.Unquoted

set_option autoImplicit false

namespace RemoteShell

namespace Value

def isRegularHere : Value → Prop
  | .int n => (Text.ofNat n.natAbs).length ≤ Numeral.mostDigits
  | .text s => s.IsApart
  | .map fields => (Assoc.keys fields).Nodup ∧ ∀ key ∈ Assoc.keys fields, key.IsApart
  | _ => True

def Regular (v : Value) : Prop := v.Everywhere isRegularHere

variable {v : Value}

theorem Regular.plain (h : v.Regular) (hreal : v.HasNoReal) : v.Plain := by
  refine Everywhere.mono (fun w hw => ?_) v (Everywhere.and v h hreal)
  obtain ⟨hhere, hreal⟩ := hw
  cases w with
  | real x => exact absurd rfl (hreal x)
  | int n => exact hhere
  | text s => exact hhere
  | map fields => exact hhere
  | null | bool | list => trivial

theorem Unquoted.regular (h : v.Unquoted) : v.Regular := by
  refine Everywhere.mono (fun w hw => ?_) v h
  cases w with
  | int n => exact hw
  | map fields =>
    obtain rfl : fields = [] := hw
    exact ⟨List.nodup_nil, fun _ h => (nomatch h)⟩
  | text s => exact hw.elim
  | null | bool | real | list => trivial

theorem everywhereFields_iff {p : Value → Prop} {fields : List (Points × Value)} :
    EverywhereFields p fields ↔ ∀ e ∈ fields, e.2.Everywhere p := by
  induction fields with
  | nil => simp [EverywhereFields]
  | cons e rest ih => simp [EverywhereFields, ih]

theorem everywhereFields_ofPairs {p : Value → Prop} {fields : List (Points × Value)}
    (h : EverywhereFields p fields) : EverywhereFields p (Assoc.ofPairs fields) :=
  everywhereFields_iff.mpr fun e he => everywhereFields_iff.mp h e (Assoc.mem_ofPairs he)

end Value

namespace Json

mutual

theorem regular_readValue {constants : Bool} : ∀ (fuel : Nat) {s rest : Text} {v : Value},
    readValue constants fuel s = .ok (v, rest) → v.Regular
  | 0, _, _, _, h => nomatch h
  | fuel + 1, s, rest, v, h => by
    unfold readValue at h
    split at h
    · obtain ⟨r, hr, h⟩ := Outcome.exists_ok_of_map h
      cases h
      exact isApart_readString ⟨[], rfl, .nil⟩ hr
    · split at h
      · cases h
        exact ⟨trivial, trivial⟩
      · obtain ⟨⟨items, after⟩, hitems, h⟩ := Outcome.exists_ok_of_map h
        cases h
        exact ⟨trivial, regular_readItems fuel hitems⟩
    · split at h
      · cases h
        exact ⟨⟨List.nodup_nil, fun _ h => (nomatch h)⟩, trivial⟩
      · obtain ⟨⟨fields, after⟩, hfields, h⟩ := Outcome.exists_ok_of_map h
        cases h
        obtain ⟨hkeys, hvalues⟩ := regular_readFields fuel hfields
        refine ⟨⟨Assoc.nodup_keys_ofPairs fields, fun key hkey => hkeys key ?_⟩,
          Value.everywhereFields_ofPairs hvalues⟩
        obtain ⟨e, he, rfl⟩ := List.mem_map.mp hkey
        exact List.mem_map_of_mem (Assoc.mem_ofPairs he)
    · split at h
      · next hword =>
        cases h
        exact (unquoted_readWord? hword).1.regular
      · exact (unquoted_readNumber h).1.regular

theorem regular_readItems {constants : Bool} : ∀ (fuel : Nat) {s rest : Text} {vs : List Value},
    readItems constants fuel s = .ok (vs, rest) → Value.EverywhereItems Value.isRegularHere vs
  | 0, _, _, _, h => nomatch h
  | fuel + 1, s, rest, vs, h => by
    unfold readItems at h
    obtain ⟨⟨v, after⟩, hv, h⟩ := Outcome.exists_ok_of_bind h
    have hhere := regular_readValue fuel hv
    dsimp only at h
    split at h
    · cases h
      exact ⟨hhere, trivial⟩
    · obtain ⟨⟨ws, last⟩, hws, h⟩ := Outcome.exists_ok_of_map h
      cases h
      exact ⟨hhere, regular_readItems fuel hws⟩
    · cases h

theorem regular_readFields {constants : Bool} : ∀ (fuel : Nat) {s rest : Text}
    {fields : List (Points × Value)}, readFields constants fuel s = .ok (fields, rest) →
      (∀ key ∈ Assoc.keys fields, key.IsApart) ∧
        Value.EverywhereFields Value.isRegularHere fields
  | 0, _, _, _, h => nomatch h
  | fuel + 1, s, rest, fields, h => by
    unfold readFields at h
    split at h
    · obtain ⟨⟨key, afterKey⟩, hread, h⟩ := Outcome.exists_ok_of_bind h
      have hkey : key.IsApart := isApart_readString ⟨[], rfl, .nil⟩ hread
      dsimp only at h
      split at h
      · obtain ⟨⟨v, after⟩, hv, h⟩ := Outcome.exists_ok_of_bind h
        have hhere := regular_readValue fuel hv
        dsimp only at h
        split at h
        · cases h
          exact ⟨List.forall_mem_singleton.mpr hkey, hhere, trivial⟩
        · obtain ⟨⟨more, last⟩, hmore, h⟩ := Outcome.exists_ok_of_map h
          cases h
          obtain ⟨hkeys, hvalues⟩ := regular_readFields fuel hmore
          exact ⟨List.forall_mem_cons.mpr ⟨hkey, hkeys⟩, hhere, hvalues⟩
        · cases h
      · cases h
    · cases h

end

theorem regular_document {constants : Bool} {s : Text} {v : Value}
    (h : document constants s = .ok v) : v.Regular := by
  unfold document at h
  obtain ⟨⟨w, rest⟩, hw, h⟩ := Outcome.exists_ok_of_bind h
  dsimp only at h
  split at h
  · cases h
    exact regular_readValue _ hw
  · cases h

theorem regular_literal? {s : Text} {v : Value} (h : literal? s = some v) : v.Regular := by
  unfold literal? at h
  split at h
  · cases h
  · cases hd : document false s with
    | error stop =>
      rw [hd] at h
      cases h
    | ok w =>
      rw [hd] at h
      cases h
      exact regular_document hd

end Json

end RemoteShell
