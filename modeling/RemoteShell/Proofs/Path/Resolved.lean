import RemoteShell.Proofs.Path

set_option autoImplicit false

namespace RemoteShell.Path

variable {base path a b : Text}

theorem segments_ne_nil (path : Text) : segments path ≠ [] := Text.cut_ne_nil '/' path

def lastSegment (path : Text) : Text := (segments path).getLast (segments_ne_nil path)

theorem getLast?_segments (path : Text) : (segments path).getLast? = some (lastSegment path) :=
  List.getLast?_eq_some_getLast _

theorem lastSegment_append (path rest : Text) :
    lastSegment (path ++ '/' :: rest) = lastSegment rest := by
  have hlast := getLast?_segments (path ++ '/' :: rest)
  rw [segments, Text.cut_append_cons, List.getLast?_append, ← segments, ← segments,
    getLast?_segments rest, Option.some_or, Option.some.injEq] at hlast
  exact hlast.symm

theorem lastSegment_eq_nil_iff (h : path ≠ []) :
    lastSegment path = [] ↔ endsInSlash path = true := by
  have hpath : Text.glue ['/'] ((segments path).dropLast ++ [lastSegment path]) = path := by
    rw [lastSegment, List.dropLast_concat_getLast]
    exact Text.glue_cut '/' path
  rw [endsInSlash, decide_eq_true_iff]
  constructor
  · intro hlast
    rw [hlast] at hpath
    have hinit : (segments path).dropLast ≠ [] := by
      intro hinit
      rw [hinit] at hpath
      exact h (hpath.symm.trans (Text.glue_singleton '/' []))
    rw [← hpath, Text.glue_concat '/' hinit, List.getLast?_concat]
  · intro hend
    refine Classical.byContradiction fun hlast => ?_
    rw [← hpath, Text.getLast?_glue_concat '/' _ hlast] at hend
    have hmem : lastSegment path ∈ segments path := List.getLast_mem _
    exact Text.not_mem_of_mem_cut hmem (List.mem_of_getLast? hend)

theorem meansDirectory_iff (h : path ≠ []) :
    meansDirectory path = true ↔
      endsInSlash path = true ∨ lastSegment path ∈ [['.'], ['.', '.']] := by
  rw [← lastSegment_eq_nil_iff h, meansDirectory, getLast?_segments]
  simp [isHere, isUp, or_assoc]

theorem meansDirectory_append (path rest : Text) :
    meansDirectory (path ++ '/' :: rest) = meansDirectory rest := by
  simp only [meansDirectory, getLast?_segments, lastSegment_append]

theorem endsInSlash_resolve_iff (hbase : base.head? = some '/') (hpath : path ≠ []) :
    endsInSlash (resolve base path) = true ↔
      remaining base path = [] ∨ meansDirectory path = true := by
  have hplain := remaining_isPlain base path
  rw [resolve_rooted hbase hpath]
  by_cases hne : remaining base path = []
  · simp [hne, below, endsInSlash, Text.glue]
  · by_cases hmeans : meansDirectory path = true
    · simp [hne, hmeans, endsInSlash]
    · simp [hne, hmeans, endsInSlash_below hplain hne]

/-- From an absolute path another one leads to the segments that are left when first those of the
one and then its own are followed. It leads to a directory if none is left or its own end says so.
What it leads to is absolute as well and leads to itself from everywhere. -/
theorem resolve_follows (hbase : isAbsolute base = true) (hpath : path ≠ []) :
    (resolve base path = below (remaining base path) ++
        if remaining base path ≠ [] ∧
            (endsInSlash path = true ∨ lastSegment path ∈ [['.'], ['.', '.']]) then ['/'] else []) ∧
      (endsInSlash (resolve base path) = true ↔ remaining base path = [] ∨
        endsInSlash path = true ∨ lastSegment path ∈ [['.'], ['.', '.']]) ∧
      isAbsolute (resolve base path) = true ∧
      ∀ base', isAbsolute base' = true →
        resolve base' (resolve base path) = resolve base path := by
  have hrooted : base.head? = some '/' := of_decide_eq_true hbase
  have hcanonical := isCanonical_resolve hrooted hpath
  refine ⟨?_, ?_, decide_eq_true hcanonical.head?, fun base' hbase' =>
    hcanonical.resolve_self (of_decide_eq_true hbase')⟩
  · simpa only [meansDirectory_iff hpath] using resolve_rooted hrooted hpath
  · rw [← meansDirectory_iff hpath]
    exact endsInSlash_resolve_iff hrooted hpath

theorem resolve_follows_climbed :
    remaining "//docs/./notes//../".toList "a/../../../x//./y/..".toList = ["x".toList] ∧
      resolve "//docs/./notes//../".toList "a/../../../x//./y/..".toList = "/x/".toList ∧
      resolve "/docs/".toList "/x/".toList = "/x/".toList := by
  have hbase : isAbsolute "//docs/./notes//../".toList = true := by decide
  have hpath : "a/../../../x//./y/..".toList ≠ [] := by decide
  obtain ⟨hresolve, -, -, hself⟩ := resolve_follows hbase hpath
  have hx : resolve "//docs/./notes//../".toList "a/../../../x//./y/..".toList = "/x/".toList :=
    hresolve.trans (by decide)
  refine ⟨by decide, hx, ?_⟩
  rw [← hx]
  exact hself _ (by decide)

def enter (base path : Text) : Text := asDirectory (resolve base path)

theorem follow_resolve (hbase : base.head? = some '/') (hpath : path ≠ []) :
    follow [] (resolve base path) = remaining base path := by
  have hplain := remaining_isPlain base path
  rw [resolve_rooted hbase hpath]
  split
  · rw [follow_append, follow_below hplain, follow_nil]
  · rw [List.append_nil, follow_below hplain]

theorem remaining_enter (hbase : base.head? = some '/') (ha : a ≠ [])
    (hb : isAbsolute b = false) : remaining (enter base a) b = remaining base (a ++ '/' :: b) := by
  have hhead : isAbsolute (a ++ '/' :: b) = isAbsolute a := by
    obtain ⟨c, rest, rfl⟩ := List.exists_cons_of_ne_nil ha
    rfl
  rw [remaining, hb, if_neg (by decide), enter, follow_asDirectory, follow_resolve hbase ha,
    remaining, remaining, hhead, follow_append]

theorem isDirectory_enter (hbase : base.head? = some '/') (ha : a ≠ []) :
    IsDirectory (enter base a) :=
  (isCanonical_resolve hbase ha).asDirectory

theorem resolve_enter (hbase : base.head? = some '/') (ha : a ≠ []) (hb : b ≠ [])
    (hrelative : isAbsolute b = false) :
    resolve (enter base a) b = resolve base (a ++ '/' :: b) := by
  have henter := (isDirectory_enter hbase ha).isCanonical.head?
  rw [resolve_rooted henter hb, resolve_rooted hbase (List.append_ne_nil_of_left_ne_nil ha _),
    remaining_enter hbase ha hrelative, meansDirectory_append]

theorem enter_enter (hbase : base.head? = some '/') (ha : a ≠ []) (hb : b ≠ [])
    (hrelative : isAbsolute b = false) :
    enter (enter base a) b = enter base (a ++ '/' :: b) :=
  congrArg asDirectory (resolve_enter hbase ha hb hrelative)

/-- A way in relative steps is one step along the glued path. -/
theorem foldl_enter (hbase : IsDirectory base) {steps : List Text}
    (h : ∀ p ∈ steps, p ≠ [] ∧ isAbsolute p = false) :
    steps.foldl enter base = enter base (Text.glue ['/'] steps) := by
  induction steps generalizing base with
  | nil => exact hbase.asDirectory_eq.symm
  | cons p rest ih =>
    obtain ⟨hp, -⟩ := h p List.mem_cons_self
    have hrest : ∀ q ∈ rest, q ≠ [] ∧ isAbsolute q = false :=
      fun q hq => h q (List.mem_cons_of_mem _ hq)
    have hrooted := hbase.isCanonical.head?
    rw [List.foldl_cons, ih (isDirectory_enter hrooted hp) hrest]
    -- the first two steps are one step along the rest glued to the first
    cases rest with
    | nil => rw [Text.glue_singleton]; exact (isDirectory_enter hrooted hp).asDirectory_eq
    | cons q rest =>
      obtain ⟨hq, hrelative⟩ := hrest q List.mem_cons_self
      have hhead := Text.head?_glue_cons (c := '/') hq rest
      have hglue : Text.glue ['/'] (q :: rest) ≠ [] := fun hnil => by
        rw [hnil] at hhead
        exact hq (List.head?_eq_none_iff.mp hhead.symm)
      rw [Text.glue_cons_cons, enter_enter hrooted hp hglue]
      rw [isAbsolute, hhead]
      exact hrelative

end RemoteShell.Path
