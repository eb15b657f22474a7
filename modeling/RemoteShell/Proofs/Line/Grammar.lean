import RemoteShell.Line
import RemoteShell.Proofs.Outcome
import RemoteShell.Proofs.Text.Strip

set_option autoImplicit false

namespace RemoteShell.Line

/-- The inside of a quoted piece, unit by unit. A unit is a character that neither closes the quote
nor is a backslash, or a backslash and whatever follows it. -/
inductive Body (quote : Char) : Text → Prop where
  | nil : Body quote []
  | plain {c : Char} {b : Text} : c ≠ quote → c ≠ '\\' → Body quote b → Body quote (c :: b)
  | escaped {c : Char} {b : Text} : Body quote b → Body quote ('\\' :: c :: b)

/-- A word that can stand without quotes. Behind its first character quotes mean nothing. -/
structure Bare (word : Text) : Prop where
  noSpace : ' ' ∉ word
  start : ∃ c, word.head? = some c ∧ isQuote c = false

def AtBreak (s : Text) : Prop := s = [] ∨ s.head? = some ' '

inductive Piece where
  | spaces (count : Nat)
  | bare (word : Text)
  | quoted (quote : Char) (body : Text)
  deriving DecidableEq, Repr

inductive Cut : List Piece → Text → Prop where
  | nil : Cut [] []
  | spaces {n : Nat} {ps : List Piece} {s : Text} :
      0 < n → Cut ps s → Cut (.spaces n :: ps) (List.replicate n ' ' ++ s)
  | bare {w : Text} {ps : List Piece} {s : Text} :
      Bare w → AtBreak s → Cut ps s → Cut (.bare w :: ps) (w ++ s)
  | quoted {q : Char} {b : Text} {ps : List Piece} {s : Text} :
      isQuote q = true → Body q b → Cut ps s → Cut (.quoted q b :: ps) (q :: b ++ q :: s)

def Piece.token? : Piece → Option Text
  | .spaces _ => none
  | .bare word => some word
  | .quoted _ body => some body

def words (ps : List Piece) : List Text := ps.filterMap Piece.token?

def merge : List Piece → List Piece
  | [] => []
  | .spaces m :: ps =>
    match merge ps with
    | .spaces n :: qs => .spaces (m + n) :: qs
    | qs => .spaces m :: qs
  | p :: ps => p :: merge ps

@[simp] theorem words_nil : words [] = [] := rfl

@[simp] theorem words_spaces (n : Nat) (ps : List Piece) : words (.spaces n :: ps) = words ps := rfl

@[simp] theorem words_bare (w : Text) (ps : List Piece) : words (.bare w :: ps) = w :: words ps :=
  rfl

@[simp] theorem words_quoted (q : Char) (b : Text) (ps : List Piece) :
    words (.quoted q b :: ps) = b :: words ps := rfl

@[simp] theorem merge_bare (w : Text) (ps : List Piece) :
    merge (.bare w :: ps) = .bare w :: merge ps := rfl

@[simp] theorem merge_quoted (q : Char) (b : Text) (ps : List Piece) :
    merge (.quoted q b :: ps) = .quoted q b :: merge ps := rfl

theorem isQuote_ne_space {c : Char} (h : isQuote c = true) : c ≠ ' ' := by
  rintro rfl
  exact absurd h (by decide)

theorem isQuote_ne_backslash {c : Char} (h : isQuote c = true) : c ≠ '\\' := by
  rintro rfl
  exact absurd h (by decide)

theorem scan_between_space (s : Text) : scan .between (' ' :: s) = scan .between s := by
  rw [scan]; simp

theorem scan_between_spaces (n : Nat) (s : Text) :
    scan .between (List.replicate n ' ' ++ s) = scan .between s := by
  induction n with
  | zero => rfl
  | succ n ih => rw [List.replicate_succ, List.cons_append, scan_between_space, ih]

theorem scan_between_quote {q : Char} (hq : isQuote q = true) (s : Text) :
    scan .between (q :: s) = scan (.quoted q []) s := by
  rw [scan]; simp [hq, isQuote_ne_space hq]

theorem scan_between_bare {c : Char} (hs : c ≠ ' ') (hq : isQuote c = false) (s : Text) :
    scan .between (c :: s) = scan (.bare [c]) s := by
  rw [scan]; simp [hq, hs]

theorem scan_bare_append (v w : Text) {s : Text} (hw : ' ' ∉ w) (hs : AtBreak s) :
    scan (.bare v) (w ++ s) = (scan .between s).map ((v.reverse ++ w) :: ·) := by
  induction w generalizing v with
  | nil =>
    obtain rfl | h := hs
    · simp [scan, Except.map]
    · obtain ⟨t, rfl⟩ := List.head?_eq_some_iff.mp h
      rw [scan_between_space, List.nil_append, scan]
      simp
  | cons c w ih =>
    simp only [List.mem_cons, not_or] at hw
    rw [List.cons_append, scan, if_neg (Ne.symm hw.1), ih (c :: v) hw.2]
    simp

theorem scan_quoted_append (q : Char) (v : Text) {b : Text} (s : Text) (hq : isQuote q = true)
    (hb : Body q b) :
    scan (.quoted q v) (b ++ q :: s) = (scan .between s).map ((v.reverse ++ b) :: ·) := by
  induction hb generalizing v with
  | nil =>
    cases s with
    | nil => simp [scan, Except.map]
    | cons d s => simp [scan]
  | @plain c b hc he hb ih =>
    have h := ih (c :: v)
    cases hbs : b ++ q :: s with
    | nil => simp at hbs
    | cons d t =>
      rw [hbs] at h
      rw [List.cons_append, hbs, scan, if_neg hc, if_neg he, h]
      simp
  | @escaped c b hb ih =>
    rw [List.cons_append, List.cons_append, scan, if_neg (isQuote_ne_backslash hq).symm,
      if_pos rfl, ih (c :: '\\' :: v)]
    simp

/-- A text that is cut into pieces is scanned to their words. -/
theorem Cut.scan_eq {ps : List Piece} {s : Text} (h : Cut ps s) :
    scan .between s = .ok (words ps) := by
  induction h with
  | nil => simp [scan]
  | spaces _ _ ih => rw [scan_between_spaces, ih, words_spaces]
  | @bare w ps s hw hs _ ih =>
    obtain ⟨c, hc, hq⟩ := hw.start
    obtain ⟨v, rfl⟩ := List.head?_eq_some_iff.mp hc
    have hv := hw.noSpace
    simp only [List.mem_cons, not_or] at hv
    rw [List.cons_append, scan_between_bare (Ne.symm hv.1) hq, scan_bare_append [c] v hv.2 hs, ih]
    rfl
  | @quoted q b ps s hq hb _ ih =>
    rw [List.cons_append, scan_between_quote hq, scan_quoted_append q [] s hq hb, ih]
    rfl

/-- What a successful scan says of a text, by the mode that it starts in. -/
def Scanned : Mode → Text → List Text → Prop
  | .between, s, ts => ∃ ps, Cut ps s ∧ ts = words ps
  | .bare v, s, ts => ∃ w r ps, s = w ++ r ∧ ' ' ∉ w ∧ AtBreak r ∧ Cut ps r ∧
      ts = (v.reverse ++ w) :: words ps
  | .quoted q v, s, ts => ∃ b r ps, s = b ++ q :: r ∧ Body q b ∧ Cut ps r ∧
      ts = (v.reverse ++ b) :: words ps

theorem Scanned.quoted_cons {q c : Char} {v s : Text} {ts : List Text} (hc : c ≠ q) (he : c ≠ '\\')
    (h : Scanned (.quoted q (c :: v)) s ts) : Scanned (.quoted q v) (c :: s) ts := by
  obtain ⟨b, r, ps, rfl, hb, hp, rfl⟩ := h
  exact ⟨c :: b, r, ps, rfl, .plain hc he hb, hp, by simp⟩

theorem Scanned.quoted_escaped {q c : Char} {v s : Text} {ts : List Text}
    (h : Scanned (.quoted q (c :: '\\' :: v)) s ts) :
    Scanned (.quoted q v) ('\\' :: c :: s) ts := by
  obtain ⟨b, r, ps, rfl, hb, hp, rfl⟩ := h
  exact ⟨'\\' :: c :: b, r, ps, rfl, .escaped hb, hp, by simp⟩

theorem Scanned.bare_cons {c : Char} {v s : Text} {ts : List Text} (hc : c ≠ ' ')
    (h : Scanned (.bare (c :: v)) s ts) : Scanned (.bare v) (c :: s) ts := by
  obtain ⟨w, r, ps, rfl, hw, hr, hp, rfl⟩ := h
  exact ⟨c :: w, r, ps, rfl, by simp [hw, Ne.symm hc], hr, hp, by simp⟩

theorem scanned_of_scan {m : Mode} {s : Text} {ts : List Text} (h : scan m s = .ok ts) :
    Scanned m s ts := by
  fun_induction scan m s generalizing ts with
  | case1 => exact ⟨[], .nil, by simpa using h.symm⟩
  | case2 s ih =>
    obtain ⟨ps, hp, rfl⟩ := ih h
    exact ⟨.spaces 1 :: ps, .spaces Nat.one_pos hp, rfl⟩
  | case3 q s _ hq ih =>
    obtain ⟨b, r, ps, rfl, hb, hp, rfl⟩ := ih h
    exact ⟨.quoted q b :: ps, .quoted hq hb hp, rfl⟩
  | case4 c s hs hq ih =>
    obtain ⟨w, r, ps, rfl, hw, hr, hp, rfl⟩ := ih h
    refine ⟨.bare (c :: w) :: ps, .bare ⟨by simp [hw, Ne.symm hs], c, rfl, by simpa using hq⟩ hr hp,
      rfl⟩
  | case5 v =>
    exact ⟨[], [], [], rfl, by simp, .inl rfl, .nil, by simpa using h.symm⟩
  | case6 v s ih =>
    obtain ⟨us, hu, rfl⟩ := Outcome.exists_ok_of_map h
    obtain ⟨ps, hp, rfl⟩ := ih hu
    exact ⟨[], ' ' :: s, .spaces 1 :: ps, rfl, by simp, .inr rfl, .spaces Nat.one_pos hp, by simp⟩
  | case7 v c s hc ih => exact .bare_cons hc (ih h)
  | case8 q v => simp at h
  | case9 q v => exact ⟨[], [], [], rfl, .nil, .nil, by simpa using h.symm⟩
  | case10 q v c hc => simp at h
  | case11 q v d s ih =>
    obtain ⟨us, hu, rfl⟩ := Outcome.exists_ok_of_map h
    obtain ⟨ps, hp, rfl⟩ := ih hu
    exact ⟨[], d :: s, ps, rfl, .nil, hp, by simp⟩
  | case12 q v d s hq ih => exact .quoted_escaped (ih h)
  | case13 q v c d s hc he ih => exact .quoted_cons hc he (ih h)

/-- Scanning succeeds exactly on what can be cut, and gives the words of the cut. -/
theorem scan_eq_ok_iff {s : Text} {ts : List Text} :
    scan .between s = .ok ts ↔ ∃ ps, Cut ps s ∧ ts = words ps := by
  constructor
  · exact scanned_of_scan
  · rintro ⟨ps, hp, rfl⟩
    exact hp.scan_eq

theorem Body.unique {q : Char} {b b' r r' : Text} (hq : q ≠ '\\') (hb : Body q b)
    (hb' : Body q b') (h : b ++ q :: r = b' ++ q :: r') : b = b' ∧ r = r' := by
  -- The first character tells an end, a plain unit and an escaped one apart.
  induction hb generalizing b' with
  | nil =>
    cases hb' with
    | nil => exact ⟨rfl, by simpa using h⟩
    | plain hc _ _ => exact absurd (List.cons.inj h).1.symm hc
    | escaped _ => exact absurd (List.cons.inj h).1 hq
  | plain hc he _ ih =>
    cases hb' with
    | nil => exact absurd (List.cons.inj h).1 hc
    | plain _ _ hb' =>
      obtain ⟨rfl, ht⟩ := List.cons.inj h
      obtain ⟨rfl, rfl⟩ := ih hb' ht
      exact ⟨rfl, rfl⟩
    | escaped _ => exact absurd (List.cons.inj h).1 he
  | escaped _ ih =>
    cases hb' with
    | nil => exact absurd (List.cons.inj h).1.symm hq
    | plain _ he _ => exact absurd (List.cons.inj h).1.symm he
    | escaped hb' =>
      obtain ⟨rfl, ht⟩ := List.cons.inj (List.cons.inj h).2
      obtain ⟨rfl, rfl⟩ := ih hb' ht
      exact ⟨rfl, rfl⟩

theorem word_unique {w w' r r' : Text} (hw : ' ' ∉ w) (hw' : ' ' ∉ w') (hr : AtBreak r)
    (hr' : AtBreak r') (h : w ++ r = w' ++ r') : w = w' ∧ r = r' := by
  induction w generalizing w' with
  | nil =>
    cases w' with
    | nil => exact ⟨rfl, h⟩
    | cons c w' =>
      obtain rfl | hr := hr
      · simp at h
      · have hc : c = ' ' := by simpa [show r = _ from h] using hr
        simp [hc] at hw'
  | cons c w ih =>
    cases w' with
    | nil =>
      obtain rfl | hr' := hr'
      · simp at h
      · have hc : c = ' ' := by simpa [← show _ = r' from h] using hr'
        simp [hc] at hw
    | cons d w' =>
      simp only [List.mem_cons, not_or] at hw hw'
      obtain ⟨rfl, ht⟩ := List.cons.inj h
      obtain ⟨rfl, rfl⟩ := ih hw.2 hw'.2 ht
      exact ⟨rfl, rfl⟩

theorem spaces_unique {m n : Nat} {r r' : Text} (hr : r.head? ≠ some ' ')
    (hr' : r'.head? ≠ some ' ') (h : List.replicate m ' ' ++ r = List.replicate n ' ' ++ r') :
    m = n ∧ r = r' := by
  induction m generalizing n with
  | zero =>
    cases n with
    | zero => exact ⟨rfl, h⟩
    | succ n => exact absurd (by simp [show r = _ from h, List.replicate_succ]) hr
  | succ m ih =>
    cases n with
    | zero => exact absurd (by simp [← show _ = r' from h, List.replicate_succ]) hr'
    | succ n =>
      rw [List.replicate_succ, List.replicate_succ] at h
      obtain ⟨rfl, rfl⟩ := ih (List.cons.inj h).2
      exact ⟨rfl, rfl⟩

theorem Cut.eq_nil {ps : List Piece} (h : Cut ps []) : ps = [] := by
  generalize hs : ([] : Text) = s at h
  cases h with
  | nil => rfl
  | spaces hn _ => simp at hs; omega
  | bare hw _ _ =>
    obtain ⟨c, hc, _⟩ := hw.start
    obtain ⟨rfl, _⟩ := List.append_eq_nil_iff.mp hs.symm
    simp at hc
  | quoted _ _ _ => simp at hs

theorem Cut.of_quote {ps : List Piece} {q : Char} {s : Text} (hq : isQuote q = true)
    (h : Cut ps (q :: s)) :
    ∃ b qs r, ps = .quoted q b :: qs ∧ s = b ++ q :: r ∧ Body q b ∧ Cut qs r := by
  generalize ht : q :: s = t at h
  cases h with
  | nil => simp at ht
  | @spaces n _ _ hn _ =>
    obtain ⟨n, rfl⟩ : ∃ m, n = m + 1 := ⟨n - 1, by omega⟩
    exact absurd (List.cons.inj ht).1 (isQuote_ne_space hq)
  | bare hw _ _ =>
    obtain ⟨c, hc, hcq⟩ := hw.start
    obtain ⟨v, rfl⟩ := List.head?_eq_some_iff.mp hc
    rw [← (List.cons.inj ht).1, hq] at hcq
    exact absurd hcq (by decide)
  | quoted _ hb hp =>
    obtain ⟨rfl, rfl⟩ := List.cons.inj ht
    exact ⟨_, _, _, rfl, rfl, hb, hp⟩

theorem Cut.of_bare {ps : List Piece} {c : Char} {s : Text} (hc : c ≠ ' ')
    (hq : isQuote c = false) (h : Cut ps (c :: s)) :
    ∃ w qs r, ps = .bare w :: qs ∧ c :: s = w ++ r ∧ Bare w ∧ AtBreak r ∧ Cut qs r := by
  generalize ht : c :: s = t at h
  cases h with
  | nil => simp at ht
  | @spaces n _ _ hn _ =>
    obtain ⟨n, rfl⟩ : ∃ m, n = m + 1 := ⟨n - 1, by omega⟩
    exact absurd (List.cons.inj ht).1 hc
  | bare hw hr hp => exact ⟨_, _, _, rfl, rfl, hw, hr, hp⟩
  | quoted hq' _ _ =>
    rw [← (List.cons.inj ht).1, hq] at hq'
    exact absurd hq' (by decide)

theorem merge_spaces_cons {ps : List Piece} {s : Text} (n : Nat) (h : Cut ps s)
    (hs : s.head? ≠ some ' ') : merge (.spaces n :: ps) = .spaces n :: merge ps := by
  cases h with
  | nil => rfl
  | @spaces m _ _ hm _ =>
    obtain ⟨m, rfl⟩ : ∃ k, m = k + 1 := ⟨m - 1, by omega⟩
    simp [List.replicate_succ] at hs
  | bare _ _ _ => rfl
  | quoted _ _ _ => rfl

theorem Cut.of_space {ps : List Piece} {s : Text} (h : Cut ps s) (hs : s.head? = some ' ') :
    ∃ n qs r, 0 < n ∧ merge ps = .spaces n :: merge qs ∧ s = List.replicate n ' ' ++ r ∧
      r.head? ≠ some ' ' ∧ Cut qs r := by
  induction h with
  | nil => simp at hs
  | @spaces n ps s hn hp ih =>
    by_cases hr : s.head? = some ' '
    · obtain ⟨m, qs, r, _, hm, rfl, hr, hq⟩ := ih hr
      refine ⟨n + m, qs, r, by omega, by simp [merge, hm], ?_, hr, hq⟩
      rw [← List.append_assoc, List.replicate_append_replicate]
    · exact ⟨n, ps, s, hn, merge_spaces_cons n hp hr, rfl, hr, hp⟩
  | bare hw _ _ _ =>
    obtain ⟨c, hc, _⟩ := hw.start
    obtain ⟨v, rfl⟩ := List.head?_eq_some_iff.mp hc
    have hn := hw.noSpace
    simp_all
  | quoted hq _ _ _ => exact absurd (by simpa using hs) (isQuote_ne_space hq)

/-- Up to merging neighbouring runs of spaces, a text is cut in one way. -/
theorem Cut.unique {ps qs : List Piece} {s : Text} (hp : Cut ps s) (hq : Cut qs s) :
    merge ps = merge qs := by
  -- The two cuts may have different numbers of pieces for one run of spaces, so the induction is on
  -- the length of the text and not on a cut.
  induction hn : s.length using Nat.strongRecOn generalizing s ps qs with
  | ind n ih =>
    cases s with
    | nil => rw [hp.eq_nil, hq.eq_nil]
    | cons c s =>
      by_cases hc : c = ' '
      · subst hc
        obtain ⟨k, ps', r, hk, hm, hs, hr, hp'⟩ := hp.of_space rfl
        obtain ⟨l, qs', r', _, hm', hs', hr', hq'⟩ := hq.of_space rfl
        obtain ⟨rfl, rfl⟩ := spaces_unique hr hr' (hs.symm.trans hs')
        have hl := congrArg List.length hs
        simp only [List.length_append, List.length_replicate] at hl
        rw [hm, hm', ih r.length (by omega) hp' hq' rfl]
      · by_cases hcq : isQuote c = true
        · obtain ⟨b, ps', r, rfl, hs, hb, hp'⟩ := hp.of_quote hcq
          obtain ⟨b', qs', r', rfl, hs', hb', hq'⟩ := hq.of_quote hcq
          obtain ⟨rfl, rfl⟩ := hb.unique (isQuote_ne_backslash hcq) hb' (hs.symm.trans hs')
          have hl : r.length < n := by
            rw [← hn, hs]
            simp only [List.length_cons, List.length_append]
            omega
          rw [merge_quoted, merge_quoted, ih r.length hl hp' hq' rfl]
        · obtain ⟨w, ps', r, rfl, hs, hw, hr, hp'⟩ := hp.of_bare hc (by simpa using hcq)
          obtain ⟨w', qs', r', rfl, hs', hw', hr', hq'⟩ := hq.of_bare hc (by simpa using hcq)
          obtain ⟨rfl, rfl⟩ := word_unique hw.noSpace hw'.noSpace hr hr' (hs.symm.trans hs')
          have hl : r.length < n := by
            obtain ⟨d, hd, _⟩ := hw.start
            obtain ⟨v, rfl⟩ := List.head?_eq_some_iff.mp hd
            rw [← hn, hs]
            simp only [List.cons_append, List.length_cons, List.length_append]
            omega
          rw [merge_bare, merge_bare, ih r.length hl hp' hq' rfl]

theorem Cut.words_ne_nil {ps : List Piece} {s : Text} (h : Cut ps s) (hs : s ≠ [])
    (hc : s.head? ≠ some ' ') : words ps ≠ [] := by
  cases h with
  | nil => exact absurd rfl hs
  | @spaces n _ _ hn _ =>
    obtain ⟨n, rfl⟩ : ∃ m, n = m + 1 := ⟨n - 1, by omega⟩
    simp [List.replicate_succ] at hc
  | bare _ _ _ => simp
  | quoted _ _ _ => simp

/-- A line has the tokens `ts` exactly when the text between the blanks around it is cut into pieces
with these words; it is cut in one way, and into no words only where nothing is left of it. -/
theorem tokens_eq_ok_iff (line : Text) :
    (∀ ts, tokens line = .ok ts ↔ ∃ ps, Cut ps (Text.strip line) ∧ ts = words ps) ∧
    (∀ ps qs, Cut ps (Text.strip line) → Cut qs (Text.strip line) → merge ps = merge qs) ∧
    (∀ ts, tokens line = .ok ts → (ts = [] ↔ Text.strip line = [])) := by
  refine ⟨fun ts => scan_eq_ok_iff, fun ps qs hp hq => hp.unique hq, fun ts h => ?_⟩
  obtain ⟨ps, hp, rfl⟩ := scan_eq_ok_iff.mp h
  constructor
  · intro hw
    apply Decidable.byContradiction
    intro hs
    refine hp.words_ne_nil hs ?_ hw
    intro hc
    exact absurd (Text.not_blank_of_head?_strip hc) (by decide)
  · intro hs
    rw [hs] at hp
    rw [hp.eq_nil, words_nil]

end RemoteShell.Line
