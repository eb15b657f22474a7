import RemoteShell.Proofs.Line.Grammar

/-! Lines with a quote that is never closed. Scanning fails exactly where closed pieces are followed
by an open quote, and names the quote with all that follows it. With the quote closed behind its
end, the line has the tokens before it and the text inside. -/

set_option autoImplicit false

namespace RemoteShell.Line

/-- The inside of a quote up to the end of a text that never closes it. The last unit may be cut
short after its backslash. -/
inductive Unclosed (quote : Char) : Text → Prop where
  | nil : Unclosed quote []
  | plain {c : Char} {b : Text} :
      c ≠ quote → c ≠ '\\' → Unclosed quote b → Unclosed quote (c :: b)
  | escaped {c : Char} {b : Text} : Unclosed quote b → Unclosed quote ('\\' :: c :: b)
  | lone : Unclosed quote ['\\']

def IsCutShort (quote : Char) (b : Text) : Prop := ∃ c, Body quote c ∧ b = c ++ ['\\']

/-- Pieces behind which any text may follow. Behind a bare word it has to be a space. -/
def IsClosed (ps : List Piece) : Prop := ∀ w, ps.getLast? ≠ some (.bare w)

/-- Closed pieces that make up a text, and then an open quote with its inside. -/
structure Stops (ps : List Piece) (before : Text) (quote : Char) (inside : Text) : Prop where
  cut : Cut ps before
  isClosed : IsClosed ps
  isQuote : isQuote quote = true
  unclosed : Unclosed quote inside

theorem isClosed_nil : IsClosed [] := fun _ h => nomatch h

theorem IsClosed.of_cons {p : Piece} {ps : List Piece} (h : IsClosed (p :: ps)) : IsClosed ps := by
  intro w hw
  refine h w ?_
  rw [List.getLast?_cons, hw]
  rfl

theorem IsClosed.ne_nil {w : Text} {ps : List Piece} (h : IsClosed (.bare w :: ps)) : ps ≠ [] := by
  rintro rfl
  exact h w rfl

theorem IsClosed.cons {p : Piece} {ps : List Piece} (h : IsClosed ps)
    (hp : (∀ w, p ≠ .bare w) ∨ ps ≠ []) : IsClosed (p :: ps) := by
  intro w hw
  cases ps with
  | nil => exact hp.elim (fun hp => hp w (Option.some.inj hw)) fun hp => hp rfl
  | cons q ps => exact h w (by rw [← hw, List.getLast?_cons_cons])

/-- What follows closed pieces is scanned as if it stood alone. -/
theorem Cut.scan_append {ps : List Piece} {u : Text} (h : Cut ps u) (s : Text)
    (hs : AtBreak s ∨ IsClosed ps) :
    scan .between (u ++ s) = (scan .between s).map (words ps ++ ·) := by
  induction h with
  | nil =>
    rw [List.nil_append]
    cases scan .between s <;> rfl
  | spaces _ _ ih =>
    rw [List.append_assoc, scan_between_spaces, ih (hs.imp_right .of_cons), words_spaces]
  | @bare w ps r hw hr hp ih =>
    obtain ⟨c, hc, hq⟩ := hw.start
    obtain ⟨v, rfl⟩ := List.head?_eq_some_iff.mp hc
    have hv := hw.noSpace
    simp only [List.mem_cons, not_or] at hv
    have hbreak : AtBreak (r ++ s) := by
      rcases hr with rfl | hr
      · exact hs.resolve_right fun hclosed => hclosed.ne_nil hp.eq_nil
      · exact .inr (by rw [List.head?_append, hr]; rfl)
    rw [List.append_assoc, List.cons_append, scan_between_bare (Ne.symm hv.1) hq,
      scan_bare_append [c] v hv.2 hbreak, ih (hs.imp_right .of_cons)]
    cases scan .between s <;> rfl
  | @quoted q b ps r hq hb _ ih =>
    rw [List.append_assoc, List.cons_append, List.cons_append, scan_between_quote hq,
      scan_quoted_append q [] (r ++ s) hq hb, ih (hs.imp_right .of_cons)]
    cases scan .between s <;> rfl

theorem Body.append {q : Char} {b c : Text} (hb : Body q b) (hc : Body q c) : Body q (b ++ c) := by
  induction hb with
  | nil => exact hc
  | plain hq he _ ih => exact .plain hq he ih
  | escaped _ ih => exact .escaped ih

theorem IsCutShort.body_concat {q : Char} {b : Text} (h : IsCutShort q b) (x : Char) :
    Body q (b ++ [x]) := by
  obtain ⟨c, hc, rfl⟩ := h
  rw [List.append_assoc]
  exact hc.append (.escaped .nil)

theorem Unclosed.body_or_isCutShort {q : Char} {b : Text} (h : Unclosed q b) :
    Body q b ∨ IsCutShort q b := by
  induction h with
  | nil => exact .inl .nil
  | plain hq he _ ih =>
    refine ih.imp (.plain hq he) ?_
    rintro ⟨c, hc, rfl⟩
    exact ⟨_, .plain hq he hc, rfl⟩
  | escaped _ ih =>
    refine ih.imp .escaped ?_
    rintro ⟨c, hc, rfl⟩
    exact ⟨_, .escaped hc, rfl⟩
  | lone => exact .inr ⟨[], .nil, rfl⟩

theorem Unclosed.scan_eq {q : Char} {b : Text} (h : Unclosed q b) (hq : isQuote q = true)
    (v : Text) : scan (.quoted q v) b = .error (q :: (v.reverse ++ b)) := by
  have hback := (isQuote_ne_backslash hq).symm
  induction h generalizing v with
  | nil => rw [scan, List.append_nil]
  | @plain c b hc he hb ih =>
    cases b with
    | nil => rw [scan, if_neg hc, List.reverse_cons]
    | cons d b => rw [scan, if_neg hc, if_neg he, ih]; simp
  | @escaped c b _ ih => rw [scan, if_neg hback, if_pos rfl, ih]; simp
  | lone => rw [scan, if_neg hback, List.reverse_cons]

theorem Stops.scan_eq {ps : List Piece} {u b : Text} {q : Char} (h : Stops ps u q b) :
    scan .between (u ++ q :: b) = .error (q :: b) := by
  rw [h.cut.scan_append _ (.inr h.isClosed), scan_between_quote h.isQuote,
    h.unclosed.scan_eq h.isQuote]
  rfl

theorem Stops.scan_closed {ps : List Piece} {u b c : Text} {q : Char} (h : Stops ps u q b)
    (hc : Body q c) : scan .between (u ++ q :: (c ++ [q])) = .ok (words ps ++ [c]) := by
  have hquoted : Cut [.quoted q c] (q :: c ++ q :: []) := .quoted h.isQuote hc .nil
  rw [h.cut.scan_append _ (.inr h.isClosed), ← List.cons_append, hquoted.scan_eq]
  rfl

def Breaks (s fragment : Text) : Prop :=
  ∃ ps u q b, Stops ps u q b ∧ s = u ++ q :: b ∧ fragment = q :: b

theorem Breaks.cons {p : Piece} {t s f : Text} (h : Breaks s f)
    (hcut : ∀ {ps u}, Cut ps u → Cut (p :: ps) (t ++ u)) (hp : ∀ w, p ≠ .bare w) :
    Breaks (t ++ s) f := by
  obtain ⟨ps, u, q, b, hstops, rfl, rfl⟩ := h
  refine ⟨p :: ps, t ++ u, q, b, ⟨hcut hstops.cut, hstops.isClosed.cons (.inl hp),
    hstops.isQuote, hstops.unclosed⟩, by rw [List.append_assoc], rfl⟩

theorem Breaks.space {s f : Text} (h : Breaks s f) : Breaks (' ' :: s) f :=
  h.cons (p := .spaces 1) (t := [' ']) (.spaces Nat.one_pos) fun _ => nofun

theorem Breaks.quoted {q : Char} {b s f : Text} (h : Breaks s f) (hq : isQuote q = true)
    (hb : Body q b) : Breaks (q :: b ++ q :: s) f := by
  rw [List.append_cons (q :: b) q s]
  refine h.cons (p := .quoted q b) (t := q :: b ++ [q]) (fun hp => ?_) fun _ => nofun
  rw [List.append_assoc]
  exact .quoted hq hb hp

/-- What a failing scan says of a text, by the mode that it starts in. -/
def Failed : Mode → Text → Text → Prop
  | .between, s, f => Breaks s f
  | .bare _, s, f => ∃ w r, s = w ++ ' ' :: r ∧ ' ' ∉ w ∧ Breaks r f
  | .quoted q v, s, f =>
    (Unclosed q s ∧ f = q :: (v.reverse ++ s)) ∨ ∃ b r, s = b ++ q :: r ∧ Body q b ∧ Breaks r f

theorem Breaks.bare {w s f : Text} (h : Breaks s f) (hw : Bare w) : Breaks (w ++ ' ' :: s) f := by
  obtain ⟨ps, u, q, b, hstops, rfl, rfl⟩ := h
  have hcut : Cut (.spaces 1 :: ps) ([' '] ++ u) := .spaces Nat.one_pos hstops.cut
  refine ⟨.bare w :: .spaces 1 :: ps, w ++ ' ' :: u, q, b, ⟨.bare hw (.inr rfl) hcut, ?_,
    hstops.isQuote, hstops.unclosed⟩, by rw [List.append_assoc]; rfl, rfl⟩
  have hspace : IsClosed (.spaces 1 :: ps) := hstops.isClosed.cons (.inl fun _ => nofun)
  exact hspace.cons (.inr (List.cons_ne_nil _ _))

theorem Failed.quoted_cons {q c : Char} {v s f : Text} (hc : c ≠ q) (he : c ≠ '\\')
    (h : Failed (.quoted q (c :: v)) s f) : Failed (.quoted q v) (c :: s) f := by
  rcases h with ⟨hu, rfl⟩ | ⟨b, r, rfl, hb, hr⟩
  · exact .inl ⟨.plain hc he hu, by simp⟩
  · exact .inr ⟨c :: b, r, rfl, .plain hc he hb, hr⟩

theorem Failed.quoted_escaped {q c : Char} {v s f : Text}
    (h : Failed (.quoted q (c :: '\\' :: v)) s f) : Failed (.quoted q v) ('\\' :: c :: s) f := by
  rcases h with ⟨hu, rfl⟩ | ⟨b, r, rfl, hb, hr⟩
  · exact .inl ⟨.escaped hu, by simp⟩
  · exact .inr ⟨'\\' :: c :: b, r, rfl, .escaped hb, hr⟩

theorem unclosed_singleton {q c : Char} (hc : c ≠ q) : Unclosed q [c] := by
  by_cases he : c = '\\'
  · exact he ▸ .lone
  · exact .plain hc he .nil

theorem failed_of_scan {m : Mode} {s f : Text} (h : scan m s = .error f) : Failed m s f := by
  fun_induction scan m s generalizing f with
  | case1 => cases h
  | case2 s ih => exact (ih h).space
  | case3 q s _ hq ih =>
    rcases ih h with ⟨hu, rfl⟩ | ⟨b, r, rfl, hb, hr⟩
    · exact ⟨[], [], q, s, ⟨.nil, isClosed_nil, hq, hu⟩, rfl, rfl⟩
    · exact hr.quoted hq hb
  | case4 c s hs hq ih =>
    obtain ⟨w, r, rfl, hw, hr⟩ := ih h
    exact hr.bare (w := c :: w) ⟨by simp [hw, Ne.symm hs], c, rfl, by simpa using hq⟩
  | case5 v => cases h
  | case6 v s ih => exact ⟨[], s, rfl, List.not_mem_nil, ih (Outcome.error_of_map h)⟩
  | case7 v c s hc ih =>
    obtain ⟨w, r, rfl, hw, hr⟩ := ih h
    exact ⟨c :: w, r, rfl, by simp [hw, Ne.symm hc], hr⟩
  | case8 q v => exact .inl ⟨.nil, by simpa using h.symm⟩
  | case9 q v => cases h
  | case10 q v c hc => exact .inl ⟨unclosed_singleton hc, by simpa using h.symm⟩
  | case11 q v d s ih => exact .inr ⟨[], d :: s, rfl, .nil, ih (Outcome.error_of_map h)⟩
  | case12 q v d s hq ih => exact .quoted_escaped (ih h)
  | case13 q v c d s hc he ih => exact .quoted_cons hc he (ih h)

/-- Scanning fails exactly on the texts with an open quote, and names the fragment from there. -/
theorem scan_eq_error_iff {s f : Text} : scan .between s = .error f ↔ Breaks s f := by
  constructor
  · exact failed_of_scan
  · rintro ⟨ps, u, q, b, hstops, rfl, rfl⟩
    exact hstops.scan_eq

theorem isBlank_eq_false_of_isQuote {q : Char} (hq : isQuote q = true) :
    Text.isBlank q = false := by
  rcases Bool.or_eq_true _ _ |>.mp hq with h | h
  all_goals rw [of_decide_eq_true h]; rfl

theorem strip_concat_quote {line t : Text} {q : Char} (hq : isQuote q = true)
    (hline : Text.strip line ≠ []) :
    Text.strip (Text.strip line ++ t ++ [q]) = Text.strip line ++ t ++ [q] := by
  refine Text.strip_eq_self (fun c hc => ?_) fun c hc => ?_
  · cases hs : Text.strip line with
    | nil => exact absurd hs hline
    | cons d r =>
      rw [hs] at hc
      exact Text.not_blank_of_head?_strip (s := line) (by rw [hs]; exact hc)
  · rw [List.getLast?_concat, Option.some.injEq] at hc
    exact hc ▸ isBlank_eq_false_of_isQuote hq

/-- A line has no tokens exactly when the text between the blanks around it is closed pieces and
then an open quote; the fragment is all from there on. The line can be mended: with the quote closed
it has the tokens of the pieces and the inside of the quote, where a lone backslash at the end first
takes any one character. -/
theorem tokens_eq_error_iff (line : Text) :
    (∀ fragment, tokens line = .error fragment ↔
      ∃ ps before quote inside, Stops ps before quote inside ∧
        Text.strip line = before ++ quote :: inside ∧ fragment = quote :: inside) ∧
    ∀ ps before quote inside, Stops ps before quote inside →
      Text.strip line = before ++ quote :: inside →
        (¬IsCutShort quote inside →
          tokens (Text.strip line ++ [quote]) = .ok (words ps ++ [inside])) ∧
        (IsCutShort quote inside → ∀ c,
          tokens (Text.strip line ++ [c, quote]) = .ok (words ps ++ [inside ++ [c]])) := by
  refine ⟨fun fragment => scan_eq_error_iff, fun ps u q b hstops hline => ?_⟩
  have hne : Text.strip line ≠ [] := by
    rw [hline]
    exact List.append_ne_nil_of_right_ne_nil _ (List.cons_ne_nil _ _)
  constructor
  · intro hfull
    have hbody := hstops.unclosed.body_or_isCutShort.resolve_right hfull
    have hstrip := strip_concat_quote (t := []) hstops.isQuote hne
    rw [List.append_nil] at hstrip
    rw [tokens, hstrip, hline, List.append_assoc, List.cons_append]
    exact hstops.scan_closed hbody
  · intro hshort c
    have hstrip := strip_concat_quote (t := [c]) hstops.isQuote hne
    rw [List.append_assoc] at hstrip
    rw [tokens, ← List.singleton_append, hstrip, hline, List.append_assoc, List.cons_append,
      ← List.append_assoc b]
    exact hstops.scan_closed (hshort.body_concat c)

example : tokens "say \"it's\" 'so \\".toList = .error "'so \\".toList := rfl

end RemoteShell.Line
