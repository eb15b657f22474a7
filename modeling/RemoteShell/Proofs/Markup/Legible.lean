import RemoteShell.Console
import RemoteShell.Proofs.Markup.Segments
import RemoteShell.Proofs.Outcome

set_option autoImplicit false

namespace RemoteShell.Markup

/-- A style that is written as its canonical name, and whose tags are what they look like. -/
structure IsStyle (style : Text) : Prop where
  body : IsBody style
  bare : Text.cutOnce '=' style = (style, none)
  start : style.head? ≠ some '/' ∧ style.head? ≠ some '@'
  solid : style.isEmpty = false ∧ Text.strip style = style
  canonical : Style.canonical style = .ok style
  check : Style.check style = .ok ()

/-- The styles that commands, their results and echoed lines are written in. -/
def styles : List String := ["bold", "dim", "white", "cyan", "bold cyan", "bold red"]

theorem isStyle {style : String} (h : style ∈ styles) : IsStyle style.toList := by
  have hall : ∀ style ∈ styles,
      IsBody style.toList ∧ Text.cutOnce '=' style.toList = (style.toList, none) ∧
      (style.toList.head? ≠ some '/' ∧ style.toList.head? ≠ some '@') ∧
      (style.toList.isEmpty = false ∧ Text.strip style.toList = style.toList) ∧
      Style.canonical style.toList = .ok style.toList ∧ Style.check style.toList = .ok () := by
    decide +kernel
  obtain ⟨body, bare, start, solid, canonical, check⟩ := hall style h
  exact ⟨body, bare, start, solid, canonical, check⟩

variable {style : Text}

theorem IsStyle.readTag_opening (h : IsStyle style) (index start : Nat) (opened : List Opened) :
    readTag index start opened style = .ok (⟨style, none, start⟩ :: opened, []) := by
  unfold readTag
  rw [h.bare]
  split
  · next name _ heq =>
    cases heq
    exact absurd rfl h.start.1
  · next heq =>
    cases heq
    rw [h.canonical]

theorem IsStyle.readTag_closing (h : IsStyle style) (index start : Nat) {opened : List Opened}
    {t : Opened} (ht : opened.find? (fun t => t.name == style) = some t) :
    readTag index start opened ('/' :: style) =
      .ok (opened.eraseP fun t => t.name == style, [t.span start]) := by
  have hbare : Text.cutOnce '=' ('/' :: style) = ('/' :: style, none) := by
    simp [Text.cutOnce, h.bare]
  have hname : t.name = style := by simpa using List.find?_some ht
  have hclose : t.close start = .ok [t.span start] := by
    unfold Opened.close
    split
    · next heq =>
      rw [hname] at heq
      exact absurd (by rw [heq]; rfl) h.start.2
    · rfl
  unfold readTag
  simp only [hbare, h.solid.1, h.solid.2, h.canonical, ht, hclose, Bool.false_eq_true, if_false,
    Outcome.map_ok]

/-- Segments that are read without a fault from where a style is open or none is. Backslashes that
make a closing tag literal leave its style open behind it. -/
inductive Legible : Option Text → List Segment → Prop where
  | nil (o : Option Text) : Legible o []
  | char {o : Option Text} {segs : List Segment} (c : Char) (rest : Legible o segs) :
      Legible o (.char c :: segs)
  | literal {o : Option Text} {segs : List Segment} {n : Nat} (body : Text) (hn : n % 2 = 1)
      (rest : Legible o segs) : Legible o (.bracket n body :: segs)
  | opening {segs : List Segment} {style : Text} (h : IsStyle style)
      (rest : Legible (some style) segs) : Legible none (.bracket 0 style :: segs)
  | closing {segs : List Segment} {style : Text} (n : Nat) (h : IsStyle style)
      (rest : Legible none segs) : Legible (some style) (.bracket n ('/' :: style) :: segs)

structure Opens (o : Option Text) (opened : List Opened) : Prop where
  styled : ∀ t ∈ opened, IsStyle t.name ∧ t.argument = none
  current : ∀ style ∈ o, ∃ t ∈ opened, t.name = style

variable {o : Option Text} {segs : List Segment}

theorem check_span {t : Opened} (h : IsStyle t.name ∧ t.argument = none) (stop : Nat) :
    Style.check (t.span stop).style = .ok () := by
  rw [Opened.span, h.2]
  simpa using h.1.check

theorem Opens.none {opened : List Opened} (h : Opens o opened) : Opens none opened :=
  ⟨h.styled, nofun⟩

theorem Opens.opening {opened : List Opened} (h : Opens o opened) (hs : IsStyle style)
    (start : Nat) : Opens (some style) (⟨style, .none, start⟩ :: opened) where
  styled := List.forall_mem_cons.mpr ⟨⟨hs, rfl⟩, h.styled⟩
  current := by
    rintro _ ⟨⟩
    exact ⟨_, List.mem_cons_self, rfl⟩

theorem Opens.find? {opened : List Opened} (h : Opens (some style) opened) :
    ∃ t ∈ opened, opened.find? (fun t => t.name == style) = some t := by
  obtain ⟨t, ht, hname⟩ := h.current style rfl
  have hfound : (opened.find? fun t => t.name == style).isSome :=
    List.find?_isSome.mpr ⟨t, ht, by simpa using hname⟩
  obtain ⟨u, hu⟩ := Option.isSome_iff_exists.mp hfound
  exact ⟨u, List.mem_of_find?_eq_some hu, hu⟩

/-- A reading without a fault, of styles that a console knows. -/
def IsRead (reading : Except Fault Styled) : Prop :=
  ∃ styled, reading = .ok styled ∧ ∀ span ∈ styled.spans, Style.check span.style = .ok ()

theorem IsRead.after {reading : Except Fault Styled} (h : IsRead reading) (text : Text)
    {spans : List Span} (hspans : ∀ span ∈ spans, Style.check span.style = .ok ()) :
    IsRead (reading.map (.after text spans)) := by
  obtain ⟨styled, rfl, hstyled⟩ := h
  exact ⟨_, rfl, List.forall_mem_append.mpr ⟨hspans, hstyled⟩⟩

theorem Legible.isRead {opened : List Opened} (h : Legible o segs) (ho : Opens o opened)
    (index start : Nat) : IsRead (readFrom index start opened segs) := by
  fun_induction readFrom index start opened segs generalizing o with
  | case1 index start opened =>
    refine ⟨_, rfl, fun span hspan => ?_⟩
    obtain ⟨t, ht, rfl⟩ := List.mem_map.mp hspan
    exact check_span (ho.styled t ht) start
  | case2 index start opened rest ih =>
    cases h with
    | char _ h =>
      cases h with
      | char _ h => exact (ih h ho).after _ (by simp)
  | case3 index start opened c rest _ ih =>
    cases h with
    | char _ h => exact (ih h ho).after _ (by simp)
  | case4 index _ opened n body rest slashes next start hn =>
    rename_i ih
    cases h with
    | literal _ _ h => exact (ih h ho).after _ (by simp)
    | opening => cases hn
    | closing _ _ h => exact (ih h ho.none).after _ (by simp)
  | case5 index _ opened n body rest slashes next start hn opened' spans htag =>
    rename_i ih
    cases h with
    | literal _ hodd => exact absurd hodd hn
    | opening hs h =>
      rw [hs.readTag_opening] at htag
      cases htag
      exact (ih h (ho.opening hs start)).after _ (by simp)
    | closing _ hs h =>
      obtain ⟨t, ht, hfound⟩ := ho.find?
      rw [hs.readTag_closing _ _ hfound] at htag
      cases htag
      refine (ih h ⟨fun u hu => ho.styled u (List.mem_of_mem_eraseP hu), nofun⟩).after _ ?_
      simpa using check_span (ho.styled t ht) start
  | case6 index _ opened n body rest start hn fault =>
    rename_i htag
    cases h with
    | literal _ hodd => exact absurd hodd hn
    | opening hs => rw [hs.readTag_opening] at htag; cases htag
    | closing _ hs =>
      obtain ⟨t, -, hfound⟩ := ho.find?
      rw [hs.readTag_closing _ _ hfound] at htag
      cases htag

/-- Segments that stay legible when a backslash comes before them: they do not begin with a tag, or
only with one that closes the open style. -/
def IsLoose (o : Option Text) : List Segment → Prop
  | .bracket _ body :: segs =>
    ∃ style, o = some style ∧ body = '/' :: style ∧ IsStyle style ∧ Legible none segs
  | _ => True

structure Joins (o : Option Text) (s : Text) : Prop where
  apart : bracket? s ≠ some ']'
  legible : Legible o (segments s)
  loose : IsLoose o (segments s)

variable {s : Text}

theorem Joins.nil (o : Option Text) : Joins o [] := ⟨nofun, .nil o, trivial⟩

theorem legible_slash (h : Legible o (segments s)) (hl : IsLoose o (segments s)) :
    Legible o (segments ('\\' :: s)) ∧ IsLoose o (segments ('\\' :: s)) := by
  rcases segments_slash s with ⟨n, body, more, hs, hslash⟩ | ⟨-, hslash⟩
  · rw [hs] at hl
    obtain ⟨style, rfl, rfl, hstyle, hmore⟩ := hl
    rw [hslash]
    exact ⟨.closing (n + 1) hstyle hmore, style, rfl, rfl, hstyle, hmore⟩
  · rw [hslash]
    exact ⟨.char '\\' h, trivial⟩

theorem Joins.slash (h : Joins o s) : Joins o ('\\' :: s) where
  apart := h.apart
  legible := (legible_slash h.legible h.loose).1
  loose := (legible_slash h.legible h.loose).2

def isPlain (c : Char) : Bool := isInside c && c ≠ '\\'

theorem segments_plain {c : Char} (h : isPlain c = true) (s : Text) :
    segments (c :: s) = .char c :: segments s := by
  simp only [isPlain, isInside, Bool.and_eq_true, bne_iff_ne, decide_eq_true_eq] at h
  exact segments_char h.1.1 h.2 s

theorem legible_plain (lead : Text) (h : lead.all isPlain = true)
    (hs : Legible o (segments s)) : Legible o (segments (lead ++ s)) := by
  induction lead with
  | nil => exact hs
  | cons c lead ih =>
    rw [List.all_cons, Bool.and_eq_true] at h
    rw [List.cons_append, segments_plain h.1]
    exact .char c (ih h.2)

theorem Joins.plain {c : Char} {lead : Text} (h : (c :: lead).all isPlain = true)
    (hs : Legible o (segments s)) (hb : bracket? s ≠ some ']') : Joins o (c :: lead ++ s) where
  apart := by
    have hinside : (c :: lead).all isInside = true := by
      refine List.all_eq_true.mpr fun d hd => ?_
      have hplain := List.all_eq_true.mp h d hd
      rw [isPlain, Bool.and_eq_true] at hplain
      exact hplain.1
    rw [bracket?_append, bracket?_of_isInside hinside]
    simpa using hb
  legible := legible_plain (c :: lead) h hs
  loose := by
    rw [List.all_cons, Bool.and_eq_true] at h
    rw [List.cons_append, segments_plain h.1]
    trivial

theorem Joins.closing (h : IsStyle style) (hs : Legible none (segments s)) :
    Joins (some style) ('[' :: '/' :: style ++ ']' :: s) := by
  have hsegs := segments_tag 0 h.body.closing s
  rw [List.replicate_zero, List.nil_append] at hsegs
  rw [List.cons_append]
  refine ⟨nofun, ?_, ?_⟩
  · rw [hsegs]
    exact .closing 0 h hs
  · rw [hsegs]
    exact ⟨style, rfl, rfl, h, hs⟩

theorem legible_tagged {inner : Text} (h : IsStyle style) (hs : Legible none (segments s))
    (hinner : ∀ rest, Joins (some style) rest → Legible (some style) (segments (inner ++ rest))) :
    Legible none (segments (tagged style inner ++ s)) := by
  have hsegs := segments_tag 0 h.body (inner ++ ('[' :: '/' :: style ++ ']' :: s))
  rw [List.replicate_zero, List.nil_append] at hsegs
  have htagged : tagged style inner ++ s =
      '[' :: (style ++ ']' :: (inner ++ ('[' :: '/' :: style ++ ']' :: s))) := by
    simp [tagged]
  rw [htagged, hsegs]
  exact .opening h (hinner _ (.closing h hs))

/-- Escaped segments are read as text. Only before a bracket of theirs a backslash would matter. -/
theorem Cuts.legible_escaped (h : Cuts s segs) {rest : Text} (hr : Joins o rest) :
    Legible o (segments (segs.flatMap Segment.escaped ++ rest)) ∧
      ((∀ n body more, segs ≠ .bracket n body :: more) →
        IsLoose o (segments (segs.flatMap Segment.escaped ++ rest))) := by
  induction h with
  | nil => exact ⟨hr.legible, fun _ => hr.loose⟩
  | @char c s segs hopen hslash h ih =>
    obtain ⟨hlegible, hloose⟩ := ih
    rw [List.flatMap_cons, Segment.escaped, List.singleton_append, List.cons_append]
    by_cases hc : c = '['
    · subst hc
      rw [segments_open (h.body?_escaped (hopen rfl) hr.apart)]
      exact ⟨.char '[' hlegible, fun _ => trivial⟩
    · by_cases hs : c = '\\'
      · subst hs
        obtain ⟨hl, hl'⟩ := legible_slash hlegible (hloose (hslash rfl))
        exact ⟨hl, fun _ => hl'⟩
      · rw [segments_char hc hs]
        exact ⟨.char c hlegible, fun _ => trivial⟩
  | @bracket n body s segs hbody _ ih =>
    have hsegs := segments_tag (2 * n + 1) hbody (segs.flatMap Segment.escaped ++ rest)
    rw [List.flatMap_cons, Segment.escaped, Segment.written]
    refine ⟨?_, fun hne => absurd rfl (hne n body segs)⟩
    simp only [List.append_assoc, List.cons_append, List.nil_append] at hsegs ⊢
    rw [hsegs]
    exact .literal body (by omega) ih.1

theorem legible_escape (t : Text) (h : Joins o s) : Legible o (segments (escape t ++ s)) := by
  have hcuts := cuts_segments t
  unfold escape closeSlash
  split
  · exact (hcuts.legible_escaped h).1
  · rw [List.append_assoc]
    exact (hcuts.legible_escaped h.slash).1
  · exact (hcuts.legible_escaped h).1

end RemoteShell.Markup

namespace RemoteShell.Console

open Markup

theorem seen_to {spans : List Span} (h : ∀ span ∈ spans, Style.check span.style = .ok ())
    (isShown : Span → Bool) :
    (forIn spans PUnit.unit fun span _ =>
      if isShown span then do
        (Style.check span.style).mapError Markup.Fault.style
        pure (ForInStep.yield PUnit.unit)
      else pure (ForInStep.yield PUnit.unit)) = .ok PUnit.unit := by
  induction spans with
  | nil => rfl
  | cons span spans ih =>
    obtain ⟨hspan, hspans⟩ := List.forall_mem_cons.mp h
    rw [List.forIn_cons, hspan]
    split <;> exact ih hspans

/-- What is printed of legible markup is its text as it was read. -/
theorem print_eq {markup : Text} {styled : Styled} (h : Legible none (segments markup))
    (hread : Markup.read markup = .ok styled) (width : Nat) :
    print width markup = .ok (layOut width styled.text) := by
  obtain ⟨styled', hread', hspans⟩ := h.isRead ⟨List.forall_mem_nil _, nofun⟩ 0 0
  obtain rfl : styled = styled' := Except.ok.inj (hread.symm.trans hread')
  have hseen := seen_to hspans (isShown styled.text (layOut width styled.text))
  unfold print
  rw [hread]
  exact congrArg (fun done => done.bind fun _ => Except.ok (layOut width styled.text)) hseen

theorem exists_print {markup : Text} (h : Legible none (segments markup)) (width : Nat) :
    ∃ text, print width markup = .ok text := by
  obtain ⟨styled, hread, -⟩ := h.isRead ⟨List.forall_mem_nil _, nofun⟩ 0 0
  exact ⟨_, print_eq h hread width⟩

end RemoteShell.Console
