import RemoteShell.Proofs.Line.Words

/-! How much of a line its tokens take up. With one character more for each they fill the line at
most, and one beyond it only if the line is nothing but bare words with single spaces between. -/

set_option autoImplicit false

namespace RemoteShell.Line

structure IsGlued (ts : List Text) (s : Text) : Prop where
  bare : ∀ t ∈ ts, Bare t
  ne_nil : ts ≠ []
  glue : s = Text.glue [' '] ts

theorem IsGlued.length {ts : List Text} {s : Text} (h : IsGlued ts s) :
    s.length + 1 = Text.span ts := by
  rw [h.glue, Text.length_glue ' ' h.ne_nil]

theorem Bare.ne_nil {w : Text} (h : Bare w) : w ≠ [] := by
  rintro rfl
  obtain ⟨c, hc, -⟩ := h.start
  cases hc

theorem IsGlued.text_ne_nil {ts : List Text} {s : Text} (h : IsGlued ts s) : s ≠ [] := by
  obtain ⟨t, rest, rfl⟩ := List.exists_cons_of_ne_nil h.ne_nil
  have ht := (h.bare t List.mem_cons_self).ne_nil
  have hhead : s.head? = t.head? := by rw [h.glue, Text.head?_glue_cons ht]
  rintro rfl
  exact ht (List.head?_eq_none_iff.mp hhead.symm)

theorem Bare.not_atBreak {w : Text} (h : Bare w) (s : Text) : ¬AtBreak (w ++ s) := by
  obtain ⟨c, hc, -⟩ := h.start
  obtain ⟨v, rfl⟩ := List.head?_eq_some_iff.mp hc
  rintro (hnil | hspace)
  · exact List.cons_ne_nil _ _ hnil
  · rw [List.cons_append, List.head?_cons, Option.some.injEq] at hspace
    exact h.noSpace (hspace ▸ List.mem_cons_self)

/-- What follows a bare word is spent on spaces too: all of them but one are wasted. -/
theorem Cut.span_words {ps : List Piece} {s : Text} (h : Cut ps s) :
    (Text.span (words ps) ≤ s.length ∨ IsGlued (words ps) s) ∧
      (AtBreak s → Text.span (words ps) + 1 ≤ s.length ∨ words ps = [] ∧ s = [] ∨
        ∃ r, s = ' ' :: r ∧ IsGlued (words ps) r) := by
  induction h with
  | nil => exact ⟨.inl (Nat.le_refl 0), fun _ => .inr (.inl ⟨rfl, rfl⟩)⟩
  | @spaces n ps s hn hp ih =>
    rw [words_spaces, List.length_append, List.length_replicate]
    rcases ih.1 with hle | hglued
    · exact ⟨.inl (by omega), fun _ => .inl (by omega)⟩
    · have hs := hglued.length
      refine ⟨.inl (by omega), fun _ => ?_⟩
      by_cases hone : n = 1
      · subst hone
        exact .inr (.inr ⟨s, rfl, hglued⟩)
      · exact .inl (by omega)
  | @bare w ps s hw hs hp ih =>
    refine ⟨?_, fun hbreak => absurd hbreak (hw.not_atBreak s)⟩
    rw [words_bare, Text.span, List.length_append]
    rcases ih.2 hs with hle | ⟨hwords, rfl⟩ | ⟨r, rfl, hglued⟩
    · exact .inl (by omega)
    · rw [hwords, List.append_nil]
      exact .inr ⟨by simpa using hw, List.cons_ne_nil _ _, (Text.glue_singleton ' ' w).symm⟩
    · refine .inr ⟨List.forall_mem_cons.mpr ⟨hw, hglued.bare⟩, List.cons_ne_nil _ _, ?_⟩
      rw [Text.glue_cons_of_ne_nil ' ' w hglued.ne_nil, hglued.glue]
  | @quoted q b ps s hq hb hp ih =>
    refine ⟨.inl ?_, fun hbreak => ?_⟩
    · have hle : Text.span (words ps) ≤ s.length + 1 := by
        rcases ih.1 with hle | hglued
        · exact Nat.le_succ_of_le hle
        · exact Nat.le_of_eq hglued.length.symm
      simp only [words_quoted, Text.span, List.length_append, List.length_cons]
      omega
    · rcases hbreak with hnil | hspace
      · exact absurd hnil (List.cons_ne_nil _ _)
      · exact absurd (Option.some.inj hspace) (isQuote_ne_space hq)

/-- The tokens of a line fit into it, or else they are bare and fill it without its blank ends. -/
theorem span_tokens {line : Text} {ts : List Text} (h : tokens line = .ok ts) :
    Text.span ts ≤ (Text.strip line).length ∨ IsGlued ts (Text.strip line) := by
  obtain ⟨ps, hp, rfl⟩ := scan_eq_ok_iff.mp h
  exact hp.span_words.1

end RemoteShell.Line
