import RemoteShell.Proofs.Line.OpenQuote

set_option autoImplicit false

namespace RemoteShell.Line

variable {a b : Text} {ts : List Text} {k : Nat}

theorem tokens_of_strip_eq {s t : Text} (h : Text.strip s = Text.strip t) : tokens s = tokens t :=
  congrArg (scan .between) h

theorem isBlank_of_mem_spaces {k : Nat} : ∀ c ∈ List.replicate k ' ', Text.isBlank c = true :=
  fun c hc => by rw [List.eq_of_mem_replicate hc]; rfl

theorem tokens_append_spaces (ha : Text.strip a = a) (hb : Text.strip b = b)
    (h : tokens a = .ok ts) (hk : 0 < k) :
    tokens (a ++ List.replicate k ' ' ++ b) = (tokens b).map (ts ++ ·) := by
  by_cases hane : a = []
  · subst hane
    cases h
    rw [List.nil_append,
      tokens_of_strip_eq (Text.strip_append_of_blank_left b isBlank_of_mem_spaces)]
    cases tokens b <;> rfl
  by_cases hbne : b = []
  · subst hbne
    rw [List.append_nil,
      tokens_of_strip_eq (Text.strip_append_of_blank_right a isBlank_of_mem_spaces), h]
    exact congrArg Except.ok (List.append_nil ts).symm
  rw [tokens, ha] at h
  obtain ⟨ps, hcut, rfl⟩ := scan_eq_ok_iff.mp h
  have hbreak : AtBreak (List.replicate k ' ' ++ b) := by
    obtain ⟨n, rfl⟩ := Nat.exists_eq_add_one.mpr hk
    exact .inr rfl
  rw [tokens, tokens, Text.strip_append_between _ ha hb hane hbne, hb, List.append_assoc,
    hcut.scan_append _ (.inl hbreak), scan_between_spaces]

/-- A trimmed line that has tokens leaves the scan as it found it: behind it and one space or more,
another trimmed line is taken apart, or not, as if it stood alone. -/
theorem tokens_joined (ha : Text.strip a = a) (hb : Text.strip b = b) (h : tokens a = .ok ts)
    (hk : 0 < k) :
    (∀ vs, tokens (a ++ List.replicate k ' ' ++ b) = .ok vs ↔
      ∃ us, tokens b = .ok us ∧ vs = ts ++ us) ∧
    ∀ fragment, tokens (a ++ List.replicate k ' ' ++ b) = .error fragment ↔
      tokens b = .error fragment := by
  rw [tokens_append_spaces ha hb h hk]
  cases tokens b with
  | ok us => simp [eq_comm]
  | error fragment => simp

theorem tokens_joined_crowded :
    tokens "it's 'a b'\"\"   \"x\\\" y\"z".toList =
        .ok ["it's".toList, "a b".toList, [], "x\\\" y".toList, ['z']] ∧
      tokens "it's 'a b'\"\"   z 'so \\".toList = .error "'so \\".toList :=
  have joined (b : Text) (hb : Text.strip b = b) :=
    tokens_joined (a := "it's 'a b'\"\"".toList) (k := 3) rfl hb rfl (by decide)
  ⟨((joined "\"x\\\" y\"z".toList rfl).1 _).mpr ⟨_, rfl, rfl⟩,
    ((joined "z 'so \\".toList rfl).2 _).mpr rfl⟩

end RemoteShell.Line
