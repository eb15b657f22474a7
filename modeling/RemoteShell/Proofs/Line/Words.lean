import RemoteShell.Proofs.Line.Grammar
import RemoteShell.Proofs.Text.Cut

set_option autoImplicit false

namespace RemoteShell.Line

theorem Bare.cut {t : Text} (ht : Bare t) : Cut [.bare t] t := by
  have h := Cut.bare ht (.inl rfl) .nil
  rwa [List.append_nil] at h

theorem exists_cut_glue {ts : List Text} (h : ∀ t ∈ ts, Bare t) :
    ∃ ps, Cut ps (Text.glue [' '] ts) ∧ words ps = ts := by
  induction ts with
  | nil => exact ⟨[], .nil, rfl⟩
  | cons t ts ih =>
    have ht := h t (by simp)
    obtain ⟨ps, hp, hw⟩ := ih fun u hu => h u (by simp [hu])
    cases ts with
    | nil => exact ⟨[.bare t], by rw [Text.glue_singleton]; exact ht.cut, rfl⟩
    | cons u ts =>
      refine ⟨.bare t :: .spaces 1 :: ps, ?_, by simp [hw]⟩
      rw [Text.glue_cons_cons]
      exact .bare ht (.inr rfl) (.spaces Nat.one_pos hp)

theorem tokens_glue {ts : List Text} (h : ∀ t ∈ ts, Bare t)
    (hl : ∀ c, (Text.glue [' '] ts).head? = some c → Text.isBlank c = false)
    (hr : ∀ c, (Text.glue [' '] ts).getLast? = some c → Text.isBlank c = false) :
    tokens (Text.glue [' '] ts) = .ok ts := by
  obtain ⟨ps, hp, hw⟩ := exists_cut_glue h
  rw [tokens, Text.strip_eq_self hl hr, hp.scan_eq, hw]

theorem tokens_glue_nil {ts : List Text} (h : ∀ t ∈ ts, Bare t)
    (hl : ∀ c, (Text.glue [' '] ts).head? = some c → Text.isBlank c = false)
    (hr : ∀ c, (Text.glue [' '] ([] :: ts)).getLast? = some c → Text.isBlank c = false) :
    tokens (Text.glue [' '] ([] :: ts)) = .ok ts := by
  cases ts with
  | nil => rfl
  | cons t ts =>
    have ht := tokens_glue h hl fun c hc => hr c (by
      rw [Text.glue_cons_cons, List.nil_append, List.getLast?_cons, hc]
      rfl)
    rw [tokens, Text.glue_cons_cons, List.nil_append, Text.strip_cons_of_blank _ Text.isBlank_space]
    exact ht

variable {P : Char → Prop}

def Mode.IsBare (P : Char → Prop) : Mode → Prop
  | .between => True
  | .bare word => Bare word.reverse ∧ ∀ c ∈ word, P c
  | .quoted .. => False

theorem Bare.concat {word : Text} {c : Char} (h : Bare word) (hc : c ≠ ' ') :
    Bare (word ++ [c]) := by
  obtain ⟨d, hd, hq⟩ := h.start
  refine ⟨by simp [h.noSpace, hc.symm], d, ?_, hq⟩
  rw [List.head?_append, hd]
  rfl

theorem exists_scan {m : Mode} {s : Text} (hm : m.IsBare P)
    (hs : ∀ c ∈ s, isQuote c = false ∧ P c) :
    ∃ ts, scan m s = .ok ts ∧ ∀ t ∈ ts, Bare t ∧ ∀ c ∈ t, P c := by
  fun_induction scan m s with
  | case1 => exact ⟨[], rfl, List.forall_mem_nil _⟩
  | case2 s ih => exact ih trivial fun c hc => hs c (List.mem_cons_of_mem _ hc)
  | case3 c s _ hq ih =>
    rw [(hs c List.mem_cons_self).1] at hq
    cases hq
  | case4 c s hspace _ ih =>
    obtain ⟨hq, hc⟩ := hs c List.mem_cons_self
    refine ih ⟨⟨by simpa using Ne.symm hspace, c, rfl, hq⟩, ?_⟩
      fun d hd => hs d (List.mem_cons_of_mem _ hd)
    simpa using hc
  | case5 word => exact ⟨_, rfl, by simpa [Mode.IsBare] using hm⟩
  | case6 word s ih =>
    obtain ⟨ts, hts, hall⟩ := ih trivial fun c hc => hs c (List.mem_cons_of_mem _ hc)
    rw [hts]
    refine ⟨_, rfl, ?_⟩
    rw [List.forall_mem_cons]
    exact ⟨by simpa [Mode.IsBare] using hm, hall⟩
  | case7 word c s hspace ih =>
    obtain ⟨hword, hchars⟩ := hm
    refine ih ⟨?_, ?_⟩ fun d hd => hs d (List.mem_cons_of_mem _ hd)
    · rw [List.reverse_cons]
      exact hword.concat hspace
    · rw [List.forall_mem_cons]
      exact ⟨(hs c List.mem_cons_self).2, hchars⟩
  | case8 | case9 | case10 | case11 | case12 | case13 => exact hm.elim

theorem exists_tokens {line : Text} (h : ∀ c ∈ line, isQuote c = false ∧ P c) :
    ∃ ts, tokens line = .ok ts ∧ ∀ t ∈ ts, Bare t ∧ ∀ c ∈ t, P c :=
  exists_scan trivial fun c hc => h c ((Text.strip_isInfix line).subset hc)

end RemoteShell.Line
