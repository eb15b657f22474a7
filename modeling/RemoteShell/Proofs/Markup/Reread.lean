import Mathlib.Data.List.Induction
import Mathlib.Data.List.Infix
import RemoteShell.Proofs.Markup.Segments
import RemoteShell.Proofs.Outcome

set_option autoImplicit false

namespace RemoteShell.Markup

variable {s : Text} {segs more : List Segment}

/-- Every backslash right before an opening bracket is before a tag. -/
def Keeps (s : Text) : Prop := ∀ rest, '\\' :: '[' :: rest <:+ s → (body? rest).isSome

def loose : List Segment := [.char '\\', .char '[']

theorem Cuts.head?_eq_open_iff (h : Cuts s segs) :
    segs.head? = some (.char '[') ↔ ∃ rest, s = '[' :: rest ∧ body? rest = none := by
  cases h with
  | nil => exact ⟨nofun, nofun⟩
  | @char c s segs hopen =>
    constructor
    · rintro ⟨⟩
      exact ⟨s, rfl, hopen rfl⟩
    · rintro ⟨rest, hs, -⟩
      cases hs
      rfl
  | @bracket n body s segs hbody =>
    refine ⟨nofun, ?_⟩
    rintro ⟨rest, hs, hnone⟩
    cases n with
    | zero =>
      cases hs
      rw [body?_append hbody] at hnone
      cases hnone
    | succ n => cases hs

/-- A backslash before a bracket is not inside a tag. -/
theorem suffix_of_suffix_bracket {body rest s : Text} (hbody : IsBody body)
    (hnone : body? rest = none) (n : Nat)
    (h : '\\' :: '[' :: rest <:+ List.replicate n '\\' ++ '[' :: (body ++ ']' :: s)) :
    '\\' :: '[' :: rest <:+ s := by
  -- The body holds no bracket that the backslash could be before.
  have hinside (w : Text) (hw : w.all isInside = true)
      (h : '\\' :: '[' :: rest <:+ w ++ ']' :: s) : '\\' :: '[' :: rest <:+ s := by
    induction w with
    | nil =>
      rcases List.suffix_cons_iff.mp h with heq | h
      · cases heq
      · exact h
    | cons d w ih =>
      rw [List.all_cons, Bool.and_eq_true] at hw
      rcases List.suffix_cons_iff.mp h with heq | h
      · cases w with
        | nil => cases heq
        | cons e w =>
          cases heq
          exact absurd hw.2 (by simp [isInside])
      · exact ih hw.2 h
  induction n with
  | zero =>
    rcases List.suffix_cons_iff.mp h with heq | h
    · cases heq
    · exact hinside body hbody.isInside h
  | succ n ih =>
    rcases List.suffix_cons_iff.mp h with heq | h
    · cases n with
      | zero =>
        cases heq
        rw [body?_append hbody] at hnone
        cases hnone
      | succ n => cases heq
    · exact ih h

theorem loose_infix_char (c : Char) (segs : List Segment) :
    loose <:+: .char c :: segs ↔ (c = '\\' ∧ segs.head? = some (.char '[')) ∨ loose <:+: segs := by
  rw [List.infix_cons_iff, loose, List.cons_prefix_cons]
  cases segs with
  | nil => simp
  | cons d segs => simp [List.cons_prefix_cons, eq_comm]

theorem loose_infix_bracket (n : Nat) (body : Text) (segs : List Segment) :
    loose <:+: .bracket n body :: segs ↔ loose <:+: segs := by
  rw [List.infix_cons_iff, loose, List.cons_prefix_cons]
  simp

theorem Cuts.loose_infix_iff (h : Cuts s segs) :
    loose <:+: segs ↔ ∃ rest, '\\' :: '[' :: rest <:+ s ∧ body? rest = none := by
  induction h with
  | nil => simp [loose]
  | @char c s segs hopen hslash h ih =>
    rw [loose_infix_char, ih, h.head?_eq_open_iff]
    constructor
    · rintro (⟨rfl, rest, rfl, hnone⟩ | ⟨rest, hrest, hnone⟩)
      · exact ⟨rest, List.suffix_refl _, hnone⟩
      · exact ⟨rest, hrest.trans (List.suffix_cons c s), hnone⟩
    · rintro ⟨rest, hrest, hnone⟩
      rcases List.suffix_cons_iff.mp hrest with heq | hrest
      · cases heq
        exact .inl ⟨rfl, rest, rfl, hnone⟩
      · exact .inr ⟨rest, hrest, hnone⟩
  | @bracket n body s segs hbody h ih =>
    rw [loose_infix_bracket, ih]
    constructor
    · rintro ⟨rest, hrest, hnone⟩
      refine ⟨rest, hrest.trans ⟨List.replicate n '\\' ++ '[' :: (body ++ [']']), ?_⟩, hnone⟩
      simp
    · rintro ⟨rest, hrest, hnone⟩
      exact ⟨rest, suffix_of_suffix_bracket hbody hnone n hrest, hnone⟩

theorem Cuts.keeps_iff (h : Cuts s segs) : Keeps s ↔ ¬loose <:+: segs := by
  rw [h.loose_infix_iff]
  simp [Keeps, Option.isSome_iff_ne_none]

instance : DecidablePred Keeps := fun s =>
  decidable_of_iff _ (cuts_segments s).keeps_iff.symm

/-- The text that segments are read as once they are escaped. -/
def reread : List Segment → Text
  | [] => []
  | .char '\\' :: .char '[' :: rest => '[' :: reread rest
  | .char c :: rest => c :: reread rest
  | .bracket n body :: rest => Segment.written (.bracket n body) ++ reread rest

theorem mem_scaled_of_mem_reread {c : Char} (h : c ∈ reread segs) : c ∈ scaled id segs := by
  fun_induction reread segs with
  | case1 => cases h
  | case2 rest ih =>
    change c ∈ '\\' :: '[' :: scaled id rest
    rcases List.mem_cons.mp h with rfl | h
    · exact List.mem_cons_of_mem _ List.mem_cons_self
    · exact List.mem_cons_of_mem _ (List.mem_cons_of_mem _ (ih h))
  | case3 d rest _ ih =>
    change c ∈ d :: scaled id rest
    rcases List.mem_cons.mp h with rfl | h
    · exact List.mem_cons_self
    · exact List.mem_cons_of_mem _ (ih h)
  | case4 n body rest ih =>
    change c ∈ Segment.written (.bracket n body) ++ scaled id rest
    rcases List.mem_append.mp h with h | h
    · exact List.mem_append_left _ h
    · exact List.mem_append_right _ (ih h)

/-- Nothing that follows can make up for a dropped backslash. -/
theorem reread_append_eq_iff (segs : List Segment) (x y : Text) :
    reread segs ++ x = scaled id segs ++ y ↔ ¬loose <:+: segs ∧ x = y := by
  fun_induction reread segs with
  | case1 => simp [scaled, loose]
  | case2 rest ih =>
    have hloose : loose <:+: .char '\\' :: .char '[' :: rest := ⟨[], rest, rfl⟩
    refine ⟨fun h => ?_, fun h => absurd hloose h.1⟩
    cases h
  | case3 c rest hc ih =>
    have hhead : ¬(c = '\\' ∧ rest.head? = some (.char '[')) := by
      rintro ⟨rfl, hhead⟩
      obtain ⟨tail, rfl⟩ := List.head?_eq_some_iff.mp hhead
      exact hc tail rfl rfl
    rw [loose_infix_char, or_iff_right hhead, ← ih]
    change c :: (reread rest ++ x) = c :: (scaled id rest ++ y) ↔ _
    rw [List.cons.injEq, and_iff_right rfl]
  | case4 n body rest ih =>
    rw [loose_infix_bracket, ← ih]
    change Segment.written (.bracket n body) ++ reread rest ++ x =
      Segment.written (.bracket n body) ++ scaled id rest ++ y ↔ _
    rw [List.append_assoc, List.append_assoc, List.append_cancel_left_eq]

theorem after_after (text text' : Text) (spans spans' : List Span) (reading : Except Fault Styled) :
    (reading.map (Styled.after text' spans')).map (Styled.after text spans) =
      reading.map (Styled.after (text ++ text') (spans ++ spans')) := by
  cases reading with
  | error fault => rfl
  | ok styled => simp [Styled.after]

theorem readFrom_char {c : Char} (h : c = '\\' → segs.head? ≠ some (.char '['))
    (index start : Nat) (opened : List Opened) :
    readFrom index start opened (.char c :: segs) =
      (readFrom (index + 1) (start + 1) opened segs).map (.after [c] []) := by
  rw [readFrom]
  rintro rest rfl rfl
  exact h rfl rfl

theorem readFrom_literal {n : Nat} (h : n % 2 = 1) (body : Text) (index start : Nat)
    (opened : List Opened) :
    readFrom index start opened (.bracket n body :: segs) =
      (readFrom (index + n + body.length + 2) (start + n / 2 + body.length + 2) opened segs).map
        (.after (List.replicate (n / 2) '\\' ++ '[' :: body ++ [']']) []) := by
  rw [readFrom]
  exact if_pos h

theorem readFrom_escaped (segs : List Segment) (hmore : more.head? ≠ some (.char '['))
    (index start : Nat) (opened : List Opened) :
    readFrom index start opened (segs.map (Segment.scale (2 * · + 1)) ++ more) =
      (readFrom (index + (scaled (2 * · + 1) segs).length) (start + (reread segs).length) opened
        more).map (.after (reread segs) []) := by
  fun_induction reread segs generalizing index start with
  | case1 =>
    cases hread : readFrom index start opened more <;> simp [scaled, hread, Styled.after]
  | case2 rest ih =>
    -- The backslash counts in the markup, and not in the text.
    change readFrom index start opened (.char '\\' :: .char '[' :: (_ ++ more)) = _
    have hindex : index + 2 + (scaled (2 * · + 1) rest).length =
        index + (scaled (2 * · + 1) (.char '\\' :: .char '[' :: rest)).length := by
      change _ = index + ((scaled (2 * · + 1) rest).length + 1 + 1)
      omega
    have hstart : start + 1 + (reread rest).length = start + ('[' :: reread rest).length := by
      rw [List.length_cons]
      omega
    rw [readFrom, ih, after_after, hindex, hstart]
    rfl
  | case3 c rest hc ih =>
    have hnext : c = '\\' →
        (rest.map (Segment.scale (2 * · + 1)) ++ more).head? ≠ some (.char '[') := by
      rintro rfl hhead
      rcases rest with _ | ⟨d | ⟨k, inner⟩, rest⟩
      · exact hmore hhead
      · cases hhead
        exact hc rest rfl rfl
      · cases hhead
    change readFrom index start opened (.char c :: (_ ++ more)) = _
    have hindex : index + 1 + (scaled (2 * · + 1) rest).length =
        index + (scaled (2 * · + 1) (.char c :: rest)).length := by
      change _ = index + ((scaled (2 * · + 1) rest).length + 1)
      omega
    have hstart : start + 1 + (reread rest).length = start + (c :: reread rest).length := by
      rw [List.length_cons]
      omega
    rw [readFrom_char hnext, ih, after_after, hindex, hstart]
    rfl
  | case4 n body rest ih =>
    change readFrom index start opened (.bracket (2 * n + 1) body :: (_ ++ more)) = _
    have hhalf : (2 * n + 1) / 2 = n := by omega
    have hindex : index + (2 * n + 1) + body.length + 2 + (scaled (2 * · + 1) rest).length =
        index + (scaled (2 * · + 1) (.bracket n body :: rest)).length := by
      simp only [scaled, List.flatMap_cons, Segment.scale, Segment.written, List.length_append,
        List.length_cons, List.length_nil, List.length_replicate]
      omega
    have hstart : start + n + body.length + 2 + (reread rest).length =
        start + (Segment.written (.bracket n body) ++ reread rest).length := by
      simp only [Segment.written, List.length_append, List.length_cons, List.length_nil,
        List.length_replicate]
      omega
    rw [readFrom_literal (by omega), hhalf, ih, after_after, hindex, hstart]
    rfl

def IsSolid (u : Text) : Prop := u.getLast? ≠ some '\\'

def slashes (k : Nat) : Text := List.replicate k '\\'

/-- How many backslashes at the end of a text there are once it is escaped. -/
def trail (k : Nat) : Nat := if k = 1 then 2 else k

variable {u : Text}

theorem exists_solid (s : Text) : ∃ u k, IsSolid u ∧ s = u ++ slashes k := by
  induction s using List.reverseRecOn with
  | nil => exact ⟨[], 0, nofun, rfl⟩
  | append_singleton s c ih =>
    by_cases hc : c = '\\'
    · obtain ⟨u, k, hu, rfl⟩ := ih
      refine ⟨u, k + 1, hu, ?_⟩
      rw [hc, List.append_assoc, slashes, slashes, List.replicate_succ']
    · exact ⟨s ++ [c], 0, by simpa [IsSolid] using hc, (List.append_nil _).symm⟩

theorem IsSolid.slashes_suffix_iff (h : IsSolid u) (j k : Nat) :
    slashes j <:+ u ++ slashes k ↔ j ≤ k := by
  constructor
  · intro hsuffix
    by_contra hlt
    have hmore : slashes (k + 1) <:+ slashes j := by
      refine ⟨slashes (j - (k + 1)), ?_⟩
      rw [slashes, slashes, slashes, List.replicate_append_replicate]
      congr 1
      omega
    have hlast : ['\\'] <:+ u := List.suffix_append_self_iff.mp (hmore.trans hsuffix)
    obtain ⟨front, rfl⟩ := hlast
    exact h List.getLast?_concat
  · intro hle
    refine ⟨u ++ slashes (k - j), ?_⟩
    rw [List.append_assoc, slashes, slashes, slashes, List.replicate_append_replicate]
    congr 2
    omega

theorem IsSolid.closeSlash_append (h : IsSolid u) (k : Nat) :
    closeSlash (u ++ slashes k) = u ++ slashes (trail k) := by
  have hhead : ∀ rest, u.reverse ≠ '\\' :: rest := by
    intro rest hrest
    refine h ?_
    rw [← List.head?_reverse, hrest]
    rfl
  unfold closeSlash
  rw [List.reverse_append, slashes, List.reverse_replicate]
  match k with
  | 0 =>
    rw [List.replicate_zero, List.nil_append]
    split
    · next hrest => exact absurd hrest (hhead _)
    · next hrest => exact absurd hrest (hhead _)
    · rfl
  | 1 =>
    rw [List.replicate_one, List.singleton_append]
    split
    · next hrest => exact absurd (List.cons.inj hrest).2 (hhead _)
    · rw [List.append_assoc]
      rfl
    · next hrest => exact absurd rfl (hrest _)
  | k + 2 => rfl

theorem segments_slashes (k : Nat) :
    segments (slashes k) = List.replicate k (.char '\\') := by
  induction k with
  | zero => rfl
  | succ k ih =>
    rcases segments_slash (slashes k) with ⟨n, body, more, hs, -⟩ | ⟨-, hs⟩
    · rw [ih] at hs
      cases k <;> cases hs
    · rw [slashes, List.replicate_succ, List.replicate_succ, ← ih]
      exact hs

theorem bracket?_slashes (k : Nat) : bracket? (slashes k) = none := by
  refine bracket?_of_isInside ?_
  rw [slashes, List.all_replicate]
  cases k <;> rfl

theorem Cuts.getLast?_eq (h : Cuts s segs) {c : Char} (hlast : segs.getLast? = some (.char c)) :
    s.getLast? = some c := by
  induction h with
  | nil => cases hlast
  | @char d s segs _ _ h ih =>
    rw [List.getLast?_cons] at hlast ⊢
    cases hsegs : segs.getLast? with
    | none =>
      rw [List.getLast?_eq_none_iff] at hsegs
      subst hsegs
      cases h
      cases hlast
      rfl
    | some x =>
      rw [hsegs] at hlast
      rw [ih (hsegs.trans hlast)]
      rfl
  | @bracket n body s segs _ h ih =>
    rw [List.getLast?_cons] at hlast
    cases hsegs : segs.getLast? with
    | none => rw [hsegs] at hlast; cases hlast
    | some x =>
      rw [hsegs] at hlast
      have hs := ih (hsegs.trans hlast)
      simp [List.getLast?_append, List.getLast?_cons, hs]

theorem Cuts.getLast?_scaled (h : Cuts s segs) (g : Nat → Nat) :
    (scaled g segs).getLast? = s.getLast? := by
  induction h with
  | nil => rfl
  | @char c s segs _ _ _ ih =>
    change (c :: scaled g segs).getLast? = (c :: s).getLast?
    rw [List.getLast?_cons, List.getLast?_cons, ih]
  | @bracket n body s segs _ _ ih =>
    rw [scaled, List.flatMap_cons, ← scaled, List.getLast?_append, ih]
    simp [Segment.scale, Segment.written, List.getLast?_append, List.getLast?_cons]

theorem scale_id (segs : List Segment) : segs.map (Segment.scale id) = segs := by
  refine (List.map_congr_left fun x _ => ?_).trans (List.map_id segs)
  cases x <;> rfl

theorem IsSolid.segments_append (h : IsSolid u) (k : Nat) :
    segments (u ++ slashes k) = segments u ++ List.replicate k (.char '\\') := by
  have hcuts := cuts_segments u
  have hnone : bracket? (slashes k) ≠ some ']' := by
    rw [bracket?_slashes]
    nofun
  have happend := hcuts.segments_scaled id hnone fun hlast => absurd (hcuts.getLast?_eq hlast) h
  rwa [scaled_id hcuts, segments_slashes, scale_id] at happend

theorem scaled_slashes (g : Nat → Nat) (k : Nat) :
    scaled g (List.replicate k (.char '\\')) = slashes k := by
  induction k with
  | zero => rfl
  | succ k ih => exact congrArg (_ :: ·) ih

theorem IsSolid.escape_append (h : IsSolid u) (k : Nat) :
    escape (u ++ slashes k) = scaled (2 * · + 1) (segments u) ++ slashes (trail k) := by
  have hsolid : IsSolid (scaled (2 * · + 1) (segments u)) := by
    rw [IsSolid, (cuts_segments u).getLast?_scaled]
    exact h
  rw [escape, h.segments_append, flatMap_escaped, ← hsolid.closeSlash_append]
  congr 1
  rw [← scaled_slashes (2 * · + 1)]
  exact List.flatMap_append

theorem head?_slashes (k : Nat) :
    (List.replicate k (Segment.char '\\')).head? ≠ some (.char '[') := by
  cases k <;> nofun

theorem reread_slashes (k : Nat) : reread (List.replicate k (.char '\\')) = slashes k := by
  induction k with
  | zero => rfl
  | succ k ih =>
    rw [List.replicate_succ, reread, ih]
    · rfl
    · rintro rest hrest -
      exact head?_slashes k (by rw [hrest]; rfl)

theorem loose_infix_append (segs : List Segment) (k : Nat) :
    loose <:+: segs ++ List.replicate k (.char '\\') ↔ loose <:+: segs := by
  induction segs with
  | nil =>
    have hnone (k : Nat) : ¬loose <:+: List.replicate k (Segment.char '\\') := by
      intro h
      have hmem := h.subset (List.mem_cons_of_mem _ List.mem_cons_self)
      cases (List.mem_replicate.mp hmem).2
    exact iff_of_false (hnone k) (hnone 0)
  | cons x segs ih =>
    cases x with
    | bracket n body =>
      exact (loose_infix_bracket n body _).trans (ih.trans (loose_infix_bracket n body _).symm)
    | char c =>
      have hhead : (segs ++ List.replicate k (Segment.char '\\')).head? = some (.char '[') ↔
          segs.head? = some (.char '[') := by
        cases segs with
        | nil => exact iff_of_false (head?_slashes k) nofun
        | cons y segs => rfl
      exact (loose_infix_char c _).trans
        ((or_congr (and_congr_right fun _ => hhead) ih).trans (loose_infix_char c _).symm)

theorem IsSolid.keeps_append_iff (h : IsSolid u) (k : Nat) :
    Keeps (u ++ slashes k) ↔ ¬loose <:+: segments u := by
  rw [(cuts_segments _).keeps_iff, h.segments_append, loose_infix_append]

theorem IsSolid.readFrom_escape (h : IsSolid u) (k index start : Nat) (opened : List Opened) :
    ∃ stop, readFrom index start opened (segments (escape (u ++ slashes k))) =
      .ok ⟨reread (segments u) ++ slashes (trail k), opened.map fun t => t.span stop⟩ := by
  have hcuts := cuts_segments u
  have hnone : bracket? (slashes (trail k)) ≠ some ']' := by
    rw [bracket?_slashes]
    nofun
  have hsegs := hcuts.segments_scaled (2 * · + 1) hnone
    fun hlast => absurd (hcuts.getLast?_eq hlast) h
  have hmore : (segments (slashes (trail k))).head? ≠ some (.char '[') := by
    rw [segments_slashes]
    exact head?_slashes _
  have hend : ([] : List Segment).head? ≠ some (.char '[') := nofun
  have hlast := readFrom_escaped (List.replicate (trail k) (.char '\\')) hend
    (index + (scaled (2 * · + 1) (segments u)).length) (start + (reread (segments u)).length) opened
  have hscale : (List.replicate (trail k) (Segment.char '\\')).map (Segment.scale (2 * · + 1)) =
      List.replicate (trail k) (.char '\\') := List.map_replicate
  rw [hscale, List.append_nil, ← segments_slashes] at hlast
  rw [h.escape_append, hsegs, readFrom_escaped _ hmore, hlast, segments_slashes, reread_slashes]
  rw [after_after]
  refine ⟨start + (reread (segments u)).length + (slashes (trail k)).length, ?_⟩
  simp [readFrom, Styled.after]

theorem IsSolid.segments_escape_append (h : IsSolid u) (k : Nat) {body : Text} (hbody : IsBody body)
    (rest : Text) :
    segments (escape (u ++ slashes k) ++ '[' :: (body ++ ']' :: rest)) =
      (segments u).map (Segment.scale (2 * · + 1)) ++ .bracket (trail k) body :: segments rest := by
  have hcuts := cuts_segments u
  have hbracket : bracket? (slashes (trail k) ++ '[' :: (body ++ ']' :: rest)) ≠ some ']' := by
    rw [bracket?_append, bracket?_slashes]
    nofun
  rw [h.escape_append, List.append_assoc, hcuts.segments_scaled _ hbracket fun hlast =>
    absurd (hcuts.getLast?_eq hlast) h, slashes, segments_tag _ hbody]

end RemoteShell.Markup
