import RemoteShell.Remote
import RemoteShell.Proofs.Outcome
import RemoteShell.Proofs.Url.Target

set_option autoImplicit false

namespace RemoteShell

namespace Url

theorem takeScheme_chars (s : Text) :
    ∀ c ∈ (Reference.takeScheme s).1, Reference.isSchemeChar c = true := by
  unfold Reference.takeScheme
  dsimp only
  split
  · split
    · exact fun c hc => List.mem_takeWhile_imp hc
    · simp
  · simp

theorem toLower_ne_mark : ∀ n, n < 128 → Reference.isSchemeChar (Char.ofNat n) = true →
    (Char.ofNat n).toLower ≠ '#' ∧ (Char.ofNat n).toLower ≠ '/' ∧ (Char.ofNat n).toLower ≠ ':' := by
  decide

theorem toNat_lt_of_isSchemeChar {c : Char} (h : Reference.isSchemeChar c = true) :
    c.toNat < 128 := by
  simp only [Reference.isSchemeChar, Text.isLetter, Text.isDigit, Bool.or_eq_true,
    Bool.and_eq_true, decide_eq_true_eq] at h
  obtain ((((⟨-, h⟩ | ⟨-, h⟩) | ⟨-, h⟩) | rfl) | rfl) | rfl := h
  · exact Nat.lt_of_le_of_lt h (by decide)
  · exact Nat.lt_of_le_of_lt h (by decide)
  · exact Nat.lt_of_le_of_lt h (by decide)
  all_goals decide

theorem isScheme_of_clean {s : Text} {u : Url} (h : clean s = .ok u) (hne : u.scheme ≠ []) :
    IsScheme u.scheme := by
  refine ⟨hne, fun c hc => ?_⟩
  have hscheme : u.scheme = Text.lowerAscii (Reference.takeScheme s).1 := by
    unfold clean at h
    obtain ⟨-, -, h⟩ := Outcome.exists_ok_of_bind h
    obtain ⟨authority, -, h⟩ := Outcome.exists_ok_of_bind h
    obtain ⟨path, -, h⟩ := Outcome.exists_ok_of_bind h
    cases h
    rfl
  rw [hscheme, Text.lowerAscii, List.mem_map] at hc
  obtain ⟨d, hd, rfl⟩ := hc
  have hchar := takeScheme_chars s d hd
  have h := toLower_ne_mark d.toNat (toNat_lt_of_isSchemeChar hchar)
  rw [Char.ofNat_toNat] at h
  exact h hchar

end Url

/-- The address of a server that was read from a text with a scheme. -/
theorem Base.isScheme_of_parse {s : Text} {base : Base} (h : Base.parse s = .ok base)
    (hne : base.scheme ≠ []) : Url.IsScheme base.scheme := by
  unfold Base.parse at h
  obtain ⟨u, hu, h⟩ := Outcome.exists_ok_of_bind h
  cases h
  exact Url.isScheme_of_clean hu hne

theorem Base.isTyped_of_url {base : Base} {path : Text} {query : Option Text} {u : Url}
    (h : base.url path query = .ok u) (hscheme : Url.IsScheme base.scheme) : u.isTyped = true := by
  unfold Base.url at h
  obtain ⟨target, htarget, h⟩ := Outcome.exists_ok_of_bind h
  dsimp only at h
  split at h
  · next hown =>
    cases h
    have hne : target.scheme ≠ [] := by
      rw [Bool.and_eq_true] at hown
      simpa using hown.1
    have htyped : Url.IsScheme target.scheme := Url.isScheme_of_clean htarget hne
    exact Url.isTyped_of_isScheme htyped
  · obtain ⟨joined, -, h⟩ := Outcome.exists_ok_of_bind h
    cases h
    exact Url.isTyped_of_isScheme hscheme

theorem Call.isTyped_of_request {call : Call} {base : Base} {r : Request}
    (h : call.request base = .ok r) (hscheme : Url.IsScheme base.scheme) :
    r.url.isTyped = true := by
  obtain ⟨url, hurl, -, rfl⟩ := Call.request_eq_ok_iff.mp h
  exact Base.isTyped_of_url hurl hscheme

end RemoteShell
