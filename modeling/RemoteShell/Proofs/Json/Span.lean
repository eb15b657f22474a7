import RemoteShell.Command
import RemoteShell.Proofs.Json.Strings
import RemoteShell.Proofs.Outcome

set_option autoImplicit false

namespace RemoteShell

namespace Json

theorem Partial.length_flush_push (p : Partial) (c : Char) :
    (p.push c).flush.length = p.flush.length + 1 := rfl

theorem Partial.length_flush_pushUnit (p : Partial) (n : Nat) :
    (p.pushUnit n).flush.length ≤ p.flush.length + 1 := by
  have hsingle : (p.pushSingle n).flush.length = p.flush.length + 1 := by
    unfold pushSingle
    split <;> rfl
  unfold pushUnit
  split
  · next high hhigh =>
    split
    · simp [flush, hhigh]
    · exact Nat.le_of_eq hsingle
  · exact Nat.le_of_eq hsingle

theorem length_readString {start s rest : Text} {r : Points} {p : Partial}
    (h : readString start p s = .ok (r, rest)) : r.length + 1 ≤ p.flush.length + s.length := by
  fun_induction readString start p s generalizing r rest with
  | case2 p | case12 p =>
    cases h
    rw [List.length_reverse, List.length_cons]
    omega
  | case7 p a b c d s n _ _ ih =>
    have hp := p.length_flush_pushUnit n
    have hs := ih h
    simp only [List.length_cons]
    omega
  | case10 p c s _ _ e _ ih =>
    have hs := ih h
    rw [p.length_flush_push] at hs
    simp only [List.length_cons]
    omega
  | case14 p c s _ _ _ _ _ ih =>
    have hs := ih h
    rw [p.length_flush_push] at hs
    rw [List.length_cons]
    omega
  | case1 | case3 | case4 | case5 | case6 | case8 | case9 | case11 | case13 => cases h

theorem readWord?_ne_text {constants : Bool} {s rest : Text} {r : Points} :
    readWord? constants s ≠ some (.text r, rest) := by
  intro h
  obtain ⟨w, hw, h⟩ := List.exists_of_findSome?_eq_some h
  split at h
  · have hword : w.2 = .text r := congrArg Prod.fst (Option.some.inj h)
    cases constants <;> simp [words] at hw <;> grind
  · cases h

theorem readNumber_ne_text {s rest : Text} {r : Points} : readNumber s ≠ .ok (.text r, rest) := by
  intro h
  unfold readNumber at h
  dsimp only at h
  split at h
  · cases h
  · split at h
    · split at h <;> cases h
    · cases h

theorem length_readValue {constants : Bool} {fuel : Nat} {s rest : Text} {r : Points}
    (h : readValue constants fuel s = .ok (.text r, rest)) : r.length + 2 ≤ s.length := by
  cases fuel with
  | zero => cases h
  | succ fuel =>
    unfold readValue at h
    split at h
    · next body =>
      obtain ⟨⟨text, after⟩, hbody, h⟩ := Outcome.exists_ok_of_map h
      cases h
      have hs := length_readString hbody
      rw [Partial.flush, List.length_nil, Nat.zero_add] at hs
      exact Nat.succ_le_succ hs
    · split at h
      · cases h
      · obtain ⟨items, _, hv⟩ := Outcome.exists_ok_of_map h
        cases hv
    · split at h
      · cases h
      · obtain ⟨fields, _, hv⟩ := Outcome.exists_ok_of_map h
        cases hv
    · split at h
      · next hword =>
        cases h
        exact absurd hword readWord?_ne_text
      · exact absurd h readNumber_ne_text

theorem length_literal? {s : Text} {r : Points} (h : literal? s = some (.text r)) :
    r.length + 2 ≤ s.length := by
  unfold literal? at h
  split at h
  · cases h
  · rcases hd : document false s with stop | v
    · rw [hd] at h
      cases h
    · rw [hd] at h
      cases h
      unfold document at hd
      obtain ⟨⟨v, rest⟩, hv, hd⟩ := Outcome.exists_ok_of_bind hd
      dsimp only at hd
      split at hd
      · cases hd
        exact Nat.le_trans (length_readValue hv) (List.dropWhile_suffix isSpace).length_le
      · cases hd

end Json

namespace Command

theorem length_of_decodeValue {token : Text} {s : Points} (h : decodeValue token = .text s) :
    s.toText.length ≤ token.length := by
  rw [Points.length_toText]
  unfold decodeValue at h
  cases hv : Json.literal? token with
  | none =>
    rw [hv] at h
    cases h
    exact Nat.le_of_eq (Points.length_ofText token)
  | some v =>
    rw [hv] at h
    cases h
    have hs := Json.length_literal? hv
    omega

/-- A text that is read from itself is no JSON string, and so it has no halves. -/
theorem eq_ofText_of_decodeValue {s : Points} (h : decodeValue s.toText = .text s) :
    s = .ofText s.toText := by
  unfold decodeValue at h
  cases hv : Json.literal? s.toText with
  | none =>
    rw [hv] at h
    exact (Value.text.inj h).symm
  | some v =>
    rw [hv] at h
    cases h
    have hs := Json.length_literal? hv
    rw [Points.length_toText] at hs
    omega

end Command

end RemoteShell
