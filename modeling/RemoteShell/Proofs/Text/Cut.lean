import RemoteShell.Text

set_option autoImplicit false

namespace RemoteShell.Text

variable {c : Char}

theorem glue_singleton (c : Char) (t : Text) : glue [c] [t] = t := List.intercalate_singleton

theorem glue_cons_cons (c : Char) (t u : Text) (ts : List Text) :
    glue [c] (t :: u :: ts) = t ++ c :: glue [c] (u :: ts) := by
  rw [glue, List.intercalate_cons_cons, List.append_assoc, List.singleton_append, glue]

theorem glue_cons_of_ne_nil (c : Char) (t : Text) {ts : List Text} (h : ts ≠ []) :
    glue [c] (t :: ts) = t ++ c :: glue [c] ts := by
  obtain ⟨u, ts, rfl⟩ := List.exists_cons_of_ne_nil h
  exact glue_cons_cons c t u ts

theorem glue_concat (c : Char) {ts : List Text} (h : ts ≠ []) (t : Text) :
    glue [c] (ts ++ [t]) = glue [c] ts ++ c :: t := by
  induction ts with
  | nil => exact absurd rfl h
  | cons s ts ih =>
    cases ts with
    | nil => rw [glue_singleton, List.singleton_append, glue_cons_cons, glue_singleton]
    | cons u us =>
      rw [List.cons_append, glue_cons_of_ne_nil c s (by simp), ih (List.cons_ne_nil u us),
        glue_cons_cons, List.append_assoc, List.cons_append]

theorem head?_glue_cons {t : Text} (ht : t ≠ []) (ts : List Text) :
    (glue [c] (t :: ts)).head? = t.head? := by
  obtain ⟨d, t, rfl⟩ := List.exists_cons_of_ne_nil ht
  cases ts with
  | nil => rw [glue_singleton]
  | cons u ts => rw [glue_cons_cons]; rfl

theorem getLast?_glue_concat (c : Char) (ts : List Text) {t : Text} (ht : t ≠ []) :
    (glue [c] (ts ++ [t])).getLast? = t.getLast? := by
  cases ts with
  | nil => rw [List.nil_append, glue_singleton]
  | cons u us =>
    rw [glue_concat c (List.cons_ne_nil u us), List.getLast?_append, List.getLast?_cons,
      List.getLast?_eq_some_getLast ht]
    rfl

/-- The characters of pieces with one more for each. -/
def span : List Text → Nat
  | [] => 0
  | t :: ts => t.length + 1 + span ts

theorem span_append (ts us : List Text) : span (ts ++ us) = span ts + span us := by
  induction ts with
  | nil => simp [span]
  | cons t ts ih =>
    rw [List.cons_append, span, span, ih]
    omega

theorem span_reverse (ts : List Text) : span ts.reverse = span ts := by
  induction ts with
  | nil => rfl
  | cons t ts ih =>
    rw [List.reverse_cons, span_append, ih, span, span, span]
    omega

theorem span_eq (ts : List Text) : span ts = ts.flatten.length + ts.length := by
  induction ts with
  | nil => rfl
  | cons t ts ih =>
    rw [span, ih, List.flatten_cons, List.length_append, List.length_cons]
    omega

theorem length_glue (c : Char) {ts : List Text} (h : ts ≠ []) :
    (glue [c] ts).length + 1 = span ts := by
  induction ts with
  | nil => exact absurd rfl h
  | cons t ts ih =>
    cases ts with
    | nil => simp [glue_singleton, span]
    | cons u ts =>
      have hs := ih (List.cons_ne_nil u ts)
      rw [glue_cons_cons, span, ← hs]
      simp only [List.length_append, List.length_cons]
      omega

theorem count_glue (c : Char) {ts : List Text} (h : ts ≠ []) :
    (glue [c] ts).count c + 1 = ts.flatten.count c + ts.length := by
  induction ts with
  | nil => exact absurd rfl h
  | cons t ts ih =>
    cases ts with
    | nil => simp [glue_singleton]
    | cons u ts =>
      have hs := ih (List.cons_ne_nil u ts)
      rw [glue_cons_cons, List.count_append, List.count_cons_self, List.flatten_cons,
        List.count_append, List.length_cons]
      omega

theorem cut_cons_self (c : Char) (s : Text) : cut c (c :: s) = [] :: cut c s := if_pos rfl

theorem exists_cut_eq_cons (c : Char) (s : Text) : ∃ piece pieces, cut c s = piece :: pieces := by
  unfold cut
  split
  · exact ⟨_, _, rfl⟩
  · split
    · exact ⟨_, _, rfl⟩
    · split <;> exact ⟨_, _, rfl⟩

theorem cut_ne_nil (c : Char) (s : Text) : cut c s ≠ [] := by
  obtain ⟨piece, pieces, h⟩ := exists_cut_eq_cons c s
  rw [h]
  exact List.cons_ne_nil _ _

theorem cut_cons_of_ne {d : Char} (h : d ≠ c) {s piece : Text} {pieces : List Text}
    (hs : cut c s = piece :: pieces) : cut c (d :: s) = (d :: piece) :: pieces := by
  rw [cut, if_neg h, hs]

theorem cut_append_of_not_mem {t : Text} (h : c ∉ t) {s piece : Text} {pieces : List Text}
    (hs : cut c s = piece :: pieces) : cut c (t ++ s) = (t ++ piece) :: pieces := by
  induction t with
  | nil => exact hs
  | cons d t ih =>
    rw [List.mem_cons, not_or] at h
    exact cut_cons_of_ne (Ne.symm h.1) (ih h.2)

theorem not_mem_of_mem_cut {s piece : Text} (h : piece ∈ cut c s) : c ∉ piece := by
  induction s generalizing piece with
  | nil =>
    rw [cut, List.mem_singleton] at h
    subst h
    exact List.not_mem_nil
  | cons d s ih =>
    by_cases hd : d = c
    · subst hd
      rw [cut_cons_self, List.mem_cons] at h
      rcases h with rfl | h
      · exact List.not_mem_nil
      · exact ih h
    · obtain ⟨first, pieces, hs⟩ := exists_cut_eq_cons c s
      rw [cut_cons_of_ne hd hs, List.mem_cons] at h
      rcases h with rfl | h
      · rw [List.mem_cons, not_or]
        exact ⟨Ne.symm hd, ih (hs ▸ List.mem_cons_self)⟩
      · exact ih (hs ▸ List.mem_cons_of_mem _ h)

theorem cut_of_not_mem {s : Text} (h : c ∉ s) : cut c s = [s] := by
  have hs := cut_append_of_not_mem h (rfl : cut c [] = [[]])
  rwa [List.append_nil] at hs

theorem cut_append_cons (t s : Text) : cut c (t ++ c :: s) = cut c t ++ cut c s := by
  induction t with
  | nil => exact cut_cons_self c s
  | cons d t ih =>
    by_cases hd : d = c
    · subst hd
      rw [List.cons_append, cut_cons_self, cut_cons_self, ih, List.cons_append]
    · obtain ⟨piece, pieces, ht⟩ := exists_cut_eq_cons c t
      rw [ht, List.cons_append] at ih
      rw [List.cons_append, cut_cons_of_ne hd ih, cut_cons_of_ne hd ht, List.cons_append]

theorem cut_append {t : Text} (h : c ∉ t) (s : Text) : cut c (t ++ c :: s) = t :: cut c s := by
  rw [cut_append_cons, cut_of_not_mem h, List.singleton_append]

theorem glue_cut (c : Char) (s : Text) : glue [c] (cut c s) = s := by
  induction s with
  | nil => rfl
  | cons d s ih =>
    by_cases hd : d = c
    · subst hd
      rw [cut_cons_self, glue_cons_of_ne_nil _ _ (cut_ne_nil d s), ih]
      rfl
    · obtain ⟨piece, pieces, hs⟩ := exists_cut_eq_cons c s
      rw [cut_cons_of_ne hd hs]
      rw [hs] at ih
      rw [← ih]
      cases pieces with
      | nil => rw [glue_singleton, glue_singleton]
      | cons u us => rw [glue_cons_cons, glue_cons_cons]; rfl

theorem cut_glue {ts : List Text} (hne : ts ≠ []) (h : ∀ t ∈ ts, c ∉ t) :
    cut c (glue [c] ts) = ts := by
  induction ts with
  | nil => exact absurd rfl hne
  | cons t ts ih =>
    have ht := h t List.mem_cons_self
    cases ts with
    | nil => rw [glue_singleton, cut_of_not_mem ht]
    | cons u us =>
      rw [glue_cons_cons, cut_append ht,
        ih (List.cons_ne_nil u us) fun t ht => h t (List.mem_cons_of_mem _ ht)]

theorem eq_of_glue_eq {ts us : List Text} (h : glue [c] us = glue [c] ts) (hne : ts ≠ [])
    (hts : ∀ t ∈ ts, c ∉ t) (hlength : ts.length ≤ us.length) : us = ts := by
  have hus : us ≠ [] := by
    rintro rfl
    exact hne (List.eq_nil_of_length_eq_zero (Nat.le_zero.mp hlength))
  have hfree : ∀ u ∈ us, c ∉ u := by
    have hu := count_glue c hus
    have ht := count_glue c hne
    have hzero : ts.flatten.count c = 0 := by
      rw [List.count_eq_zero, List.mem_flatten]
      rintro ⟨t, ht, hc⟩
      exact hts t ht hc
    rw [h] at hu
    have hcount : us.flatten.count c = 0 := by omega
    rw [List.count_eq_zero, List.mem_flatten] at hcount
    exact fun u hu hc => hcount ⟨u, hu, hc⟩
  rw [← cut_glue hus hfree, h, cut_glue hne hts]

theorem span_cut (c : Char) (s : Text) : span (cut c s) = s.length + 1 := by
  rw [← length_glue c (cut_ne_nil c s), glue_cut]

theorem cutOnce_fst (c : Char) (s : Text) : (cutOnce c s).1 = s.takeWhile (· ≠ c) := by
  induction s with
  | nil => rfl
  | cons d s ih =>
    unfold cutOnce
    split
    · next hd => rw [List.takeWhile_cons_of_neg (by simpa using hd)]
    · next hd => rw [List.takeWhile_cons_of_pos (by simpa using hd), ← ih]

theorem cutOnce_append {s : Text} (h : c ∉ s) (t : Text) :
    cutOnce c (s ++ c :: t) = (s, some t) := by
  induction s with
  | nil => exact if_pos rfl
  | cons d s ih =>
    rw [List.mem_cons, not_or] at h
    rw [List.cons_append, cutOnce, if_neg (Ne.symm h.1), ih h.2]

end RemoteShell.Text
