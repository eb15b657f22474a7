import RemoteShell.Path
import RemoteShell.Proofs.Text.Cut

set_option autoImplicit false

namespace RemoteShell.Path

structure IsPlain (segment : Text) : Prop where
  nonempty : segment ≠ []
  noSlash : '/' ∉ segment
  notHere : isHere segment = false
  notUp : isUp segment = false

def below (segments : List Text) : Text := '/' :: Text.glue ['/'] segments

/-- Behind a slash at the end there is an empty segment. -/
def IsDirectory (t : Text) : Prop :=
  ∃ segments, (∀ s ∈ segments, IsPlain s) ∧ t = below (segments ++ [[]])

def IsCanonical (t : Text) : Prop :=
  ∃ segments, (∀ s ∈ segments, IsPlain s) ∧ (t = below segments ∨ t = below (segments ++ [[]]))

variable {segments : List Text}

theorem IsDirectory.isCanonical {t : Text} (h : IsDirectory t) : IsCanonical t := by
  obtain ⟨segments, hs, ht⟩ := h
  exact ⟨segments, hs, .inr ht⟩

theorem below_concat_nil (h : segments ≠ []) :
    below (segments ++ [[]]) = below segments ++ ['/'] := by
  rw [below, Text.glue_concat '/' h, below, List.cons_append]

theorem head?_glue_ne (h : ∀ s ∈ segments, IsPlain s) {last : List Text}
    (hl : last = [] ∨ last = [[]]) :
    (Text.glue ['/'] (segments ++ last)).head? ≠ some '/' := by
  cases segments with
  | nil => rcases hl with rfl | rfl <;> simp [Text.glue]
  | cons s rest =>
    have hs := h s List.mem_cons_self
    rw [List.cons_append, Text.head?_glue_cons hs.nonempty]
    exact fun hhead => hs.noSlash (List.mem_of_mem_head? hhead)

theorem endsInSlash_below_concat_nil (segments : List Text) :
    endsInSlash (below (segments ++ [[]])) = true := by
  by_cases hs : segments = []
  · subst hs; rfl
  · simp [below_concat_nil hs, endsInSlash]

theorem endsInSlash_below (h : ∀ s ∈ segments, IsPlain s) (hne : segments ≠ []) :
    endsInSlash (below segments) = false := by
  obtain ⟨init, last, rfl⟩ : ∃ init last, segments = init ++ [last] :=
    ⟨_, _, (List.dropLast_concat_getLast hne).symm⟩
  have hlast := h last (by simp)
  have hend : (below (init ++ [last])).getLast? = last.getLast? := by
    obtain ⟨c, rest, hc⟩ := List.exists_cons_of_ne_nil hlast.nonempty
    by_cases hi : init = []
    · subst hi
      rw [List.nil_append, below, Text.glue_singleton, hc, List.getLast?_cons_cons]
    · rw [below, Text.glue_concat '/' hi, hc]
      simp [List.getLast?_cons, List.getLast?_append]
  rw [endsInSlash, hend, decide_eq_false_iff_not]
  exact fun hslash => hlast.noSlash (List.mem_of_getLast? hslash)

theorem leadingSlashes_one {s : Text} (h : s.head? ≠ some '/') : leadingSlashes ('/' :: s) = 1 := by
  cases s with
  | nil => rfl
  | cons c s =>
    have hc : c ≠ '/' := fun hc => h (congrArg some hc)
    simp [leadingSlashes, hc]

theorem leadingSlashes_two {s : Text} (h : s.head? ≠ some '/') :
    leadingSlashes ('/' :: '/' :: s) = 2 := by
  cases s with
  | nil => rfl
  | cons c s =>
    have hc : c ≠ '/' := fun hc => h (congrArg some hc)
    simp [leadingSlashes, hc]

theorem leadingSlashes_rooted (s : Text) :
    leadingSlashes ('/' :: s) = 1 ∨ leadingSlashes ('/' :: s) = 2 := by
  unfold leadingSlashes
  split <;> simp_all

/-- One more segment on the way from the root. An empty one and `.` change nothing, and `..` takes
back the last segment kept, if there is one. -/
def settle (kept : List Text) (segment : Text) : List Text :=
  if segment = [] ∨ segment = ['.'] then kept
  else if segment = ['.', '.'] then kept.dropLast
  else kept ++ [segment]

def follow (kept : List Text) (path : Text) : List Text := (Path.segments path).foldl settle kept

theorem settle_isPlain {segment : Text} {kept : List Text} (h : ∀ s ∈ kept, IsPlain s)
    (hs : '/' ∉ segment) : ∀ s ∈ settle kept segment, IsPlain s := by
  unfold settle
  split
  · exact h
  next hempty =>
    rw [not_or] at hempty
    split
    · exact fun s hmem => h s (List.dropLast_subset kept hmem)
    next hup =>
      intro s hmem
      rcases List.mem_append.mp hmem with hmem | hmem
      · exact h s hmem
      · obtain rfl := List.mem_singleton.mp hmem
        exact ⟨hempty.1, hs, by simpa [isHere] using hempty.2, by simpa [isUp] using hup⟩

theorem foldl_settle_isPlain {pieces kept : List Text} (h : ∀ s ∈ kept, IsPlain s)
    (hp : ∀ s ∈ pieces, '/' ∉ s) : ∀ s ∈ pieces.foldl settle kept, IsPlain s := by
  induction pieces generalizing kept with
  | nil => exact h
  | cons piece pieces ih =>
    exact ih (settle_isPlain h (hp piece List.mem_cons_self))
      fun s hs => hp s (List.mem_cons_of_mem _ hs)

theorem follow_isPlain {kept : List Text} (h : ∀ s ∈ kept, IsPlain s) (path : Text) :
    ∀ s ∈ follow kept path, IsPlain s :=
  foldl_settle_isPlain h fun _ => Text.not_mem_of_mem_cut

/-- On the stack the segment that was kept last comes first. -/
theorem climb_reverse {kept : List Text} (h : ∀ s ∈ kept, IsPlain s) (segment : Text) :
    climb true kept.reverse segment = (settle kept segment).reverse := by
  unfold climb settle
  by_cases hempty : segment = [] ∨ segment = ['.']
  · rw [if_pos (by simpa [isHere] using hempty), if_pos hempty]
  rw [if_neg (by simpa [isHere] using hempty), if_neg hempty]
  by_cases hup : segment = ['.', '.']
  · rw [if_pos (by simpa [isUp] using hup), if_pos hup]
    rcases List.eq_nil_or_concat kept with rfl | ⟨init, last, rfl⟩
    · rfl
    · have hlast := (h last (by simp)).notUp
      simp [hlast]
  · rw [if_neg (by simpa [isUp] using hup), if_neg hup, List.reverse_append]
    rfl

theorem foldl_climb_reverse {pieces kept : List Text} (h : ∀ s ∈ kept, IsPlain s)
    (hp : ∀ s ∈ pieces, '/' ∉ s) :
    pieces.foldl (climb true) kept.reverse = (pieces.foldl settle kept).reverse := by
  induction pieces generalizing kept with
  | nil => rfl
  | cons piece pieces ih =>
    rw [List.foldl_cons, climb_reverse h]
    exact ih (settle_isPlain h (hp piece List.mem_cons_self))
      fun s hs => hp s (List.mem_cons_of_mem _ hs)

theorem follow_nil (kept : List Text) : follow kept [] = kept := rfl

theorem follow_append (kept : List Text) (path rest : Text) :
    follow kept (path ++ '/' :: rest) = follow (follow kept path) rest := by
  rw [follow, Path.segments, Text.cut_append_cons, List.foldl_append]
  rfl

theorem follow_asDirectory (kept : List Text) (path : Text) :
    follow kept (Path.asDirectory path) = follow kept path := by
  unfold Path.asDirectory
  split
  · rfl
  · exact follow_append kept path []

theorem foldl_settle_plain (h : ∀ s ∈ segments, IsPlain s) (kept : List Text) :
    segments.foldl settle kept = kept ++ segments := by
  induction segments generalizing kept with
  | nil => exact (List.append_nil kept).symm
  | cons s rest ih =>
    have hs := h s List.mem_cons_self
    have hhere : s ≠ ['.'] := by simpa [isHere] using hs.notHere
    have hup : s ≠ ['.', '.'] := by simpa [isUp] using hs.notUp
    rw [List.foldl_cons, settle, if_neg (not_or.mpr ⟨hs.nonempty, hhere⟩), if_neg hup,
      ih fun t ht => h t (List.mem_cons_of_mem _ ht), List.append_assoc, List.singleton_append]

theorem segments_below (h : ∀ s ∈ segments, IsPlain s) (hne : segments ≠ []) :
    Path.segments (below segments) = [] :: segments := by
  rw [Path.segments, below, Text.cut_cons_self, Text.cut_glue hne fun s hs => (h s hs).noSlash]

theorem follow_below (h : ∀ s ∈ segments, IsPlain s) : follow [] (below segments) = segments := by
  by_cases hne : segments = []
  · subst hne; rfl
  · rw [follow, segments_below h hne, List.foldl_cons]
    exact foldl_settle_plain h []

def remaining (base path : Text) : List Text :=
  follow (if isAbsolute path then [] else follow [] base) path

theorem remaining_isPlain (base path : Text) : ∀ s ∈ remaining base path, IsPlain s := by
  refine follow_isPlain ?_ path
  split
  · exact List.forall_mem_nil _
  · exact follow_isPlain (List.forall_mem_nil _) base

theorem follow_join (base path : Text) : follow [] (join base path) = remaining base path := by
  unfold join remaining
  split
  · rfl
  · split
    · next hend =>
      rcases List.eq_nil_or_concat base with rfl | ⟨init, last, rfl⟩
      · rfl
      · obtain rfl : last = '/' := by simpa [endsInSlash] using hend
        rw [List.concat_eq_append, List.append_assoc, List.singleton_append, follow_append,
          follow_append, follow_nil]
    · exact follow_append [] base path

theorem normalize_rooted (s : Text) : normalize ('/' :: s) =
    List.replicate (leadingSlashes ('/' :: s)) '/' ++ Text.glue ['/'] (follow [] ('/' :: s)) := by
  have hslashes := leadingSlashes_rooted s
  have hrooted : (leadingSlashes ('/' :: s) != 0) = true := by
    rcases hslashes with h | h <;> rw [h] <;> rfl
  have hkept : (Path.segments ('/' :: s)).foldl (climb true) [] =
      (follow [] ('/' :: s)).reverse :=
    foldl_climb_reverse (List.forall_mem_nil _) fun _ => Text.not_mem_of_mem_cut
  unfold normalize
  dsimp only
  rw [hrooted, hkept, List.reverse_reverse, if_neg]
  rcases hslashes with h | h <;> simp [h]

theorem single_slash (h : ∀ s ∈ segments, IsPlain s) {n : Nat} (hn : n = 1 ∨ n = 2) {plain : Text}
    (hp : plain = List.replicate n '/' ++ Text.glue ['/'] segments) :
    (if leadingSlashes plain = 2 then '/' :: plain.dropWhile (· = '/') else plain) =
      below segments := by
  have hhead := head?_glue_ne h (.inl rfl)
  rw [List.append_nil] at hhead
  subst hp
  rcases hn with rfl | rfl
  · change (if leadingSlashes (below segments) = 2 then _ else below segments) = _
    rw [below, leadingSlashes_one hhead, if_neg (by decide)]
  · change (if leadingSlashes ('/' :: '/' :: Text.glue ['/'] segments) = 2 then
      '/' :: ('/' :: '/' :: Text.glue ['/'] segments).dropWhile (· = '/') else _) = _
    rw [leadingSlashes_two hhead, if_pos rfl, below]
    simp only [decide_true, List.dropWhile_cons_of_pos]
    cases hg : Text.glue ['/'] segments with
    | nil => rfl
    | cons c rest =>
      rw [hg] at hhead
      rw [List.dropWhile_cons_of_neg]
      simpa using hhead

theorem join_rooted {base : Text} (h : base.head? = some '/') (path : Text) :
    ∃ s, join base path = '/' :: s := by
  obtain ⟨s, rfl⟩ : ∃ s, base = '/' :: s := by
    cases base with
    | nil => cases h
    | cons c s => exact ⟨s, by rw [Option.some.inj h]⟩
  unfold join
  split
  · next hp =>
    cases path with
    | nil => cases hp
    | cons c path =>
      have hc : c = '/' := by simpa [isAbsolute] using hp
      exact ⟨path, by rw [hc]⟩
  · split
    · exact ⟨_, rfl⟩
    · exact ⟨_, rfl⟩

theorem IsCanonical.head? {t : Text} (h : IsCanonical t) : t.head? = some '/' := by
  obtain ⟨segments, -, rfl | rfl⟩ := h <;> rfl

/-- Resolving follows the segments from the root: a slash before each that is left, and one at the
end if a directory is meant. -/
theorem resolve_rooted {base path : Text} (h : base.head? = some '/') (hpath : path ≠ []) :
    resolve base path = below (remaining base path) ++
      if remaining base path ≠ [] ∧ meansDirectory path = true then ['/'] else [] := by
  obtain ⟨s, hs⟩ := join_rooted h path
  have hplain := remaining_isPlain base path
  have hnormal := normalize_rooted s
  rw [← hs, follow_join] at hnormal
  have hempty : path.isEmpty = false := by simpa using hpath
  unfold Path.resolve
  dsimp only
  rw [hempty, if_neg (by decide), single_slash hplain (hs ▸ leadingSlashes_rooted s) hnormal]
  by_cases hne : remaining base path = []
  · have hroot : endsInSlash (below []) = true := rfl
    simp [hne, hroot]
  · cases hmeans : meansDirectory path <;> simp [endsInSlash_below hplain hne, hne]

theorem isCanonical_resolve {base path : Text} (h : base.head? = some '/') (hpath : path ≠ []) :
    IsCanonical (resolve base path) := by
  refine ⟨remaining base path, remaining_isPlain base path, ?_⟩
  rw [resolve_rooted h hpath]
  split
  · next hdirectory => exact .inr (below_concat_nil hdirectory.1).symm
  · exact .inl (List.append_nil _)

/-- What is resolved from a canonical path is canonical. -/
theorem IsCanonical.resolve {base : Text} (h : IsCanonical base) (path : Text) :
    IsCanonical (resolve base path) := by
  by_cases hpath : path = []
  · subst hpath
    exact h
  · exact isCanonical_resolve h.head? hpath

theorem IsCanonical.asDirectory {t : Text} (h : IsCanonical t) : IsDirectory (asDirectory t) := by
  obtain ⟨segments, hs, rfl | rfl⟩ := h
  · refine ⟨segments, hs, ?_⟩
    by_cases hne : segments = []
    · subst hne; rfl
    · rw [Path.asDirectory, endsInSlash_below hs hne, below_concat_nil hne]
      rfl
  · refine ⟨segments, hs, ?_⟩
    rw [Path.asDirectory, endsInSlash_below_concat_nil, if_pos rfl]

theorem IsDirectory.asDirectory_eq {t : Text} (h : IsDirectory t) : Path.asDirectory t = t := by
  obtain ⟨segments, -, rfl⟩ := h
  rw [Path.asDirectory, endsInSlash_below_concat_nil, if_pos rfl]

theorem isCanonical_root : IsCanonical root := ⟨[], by simp, .inl rfl⟩

theorem segments_directory (h : ∀ s ∈ segments, IsPlain s) :
    Path.segments (below (segments ++ [[]])) = [] :: (segments ++ [[]]) := by
  rw [Path.segments, below, Text.cut_cons_self, Text.cut_glue (by simp)]
  intro t ht
  rcases List.mem_append.mp ht with ht | ht
  · exact (h t ht).noSlash
  · rw [List.mem_singleton.mp ht]
    exact List.not_mem_nil

theorem IsCanonical.resolve_self {t : Text} (h : IsCanonical t) {base : Text}
    (hbase : base.head? = some '/') : Path.resolve base t = t := by
  obtain ⟨segments, hs, ht⟩ := h
  have hfollow : remaining base t = segments := by
    rcases ht with rfl | rfl
    · exact follow_below hs
    · change follow [] (below (segments ++ [[]])) = segments
      rw [follow, segments_directory hs, ← List.cons_append, List.foldl_append, List.foldl_cons]
      exact foldl_settle_plain hs []
  have hempty : t ≠ [] := by rcases ht with rfl | rfl <;> exact List.cons_ne_nil _ _
  rw [resolve_rooted hbase hempty, hfollow]
  by_cases hne : segments = []
  · subst hne
    rcases ht with rfl | rfl <;> rfl
  rcases ht with rfl | rfl
  · have hmeans : meansDirectory (below segments) = false := by
      have hlast := hs _ (List.getLast_mem hne)
      rw [meansDirectory, segments_below hs hne, List.getLast?_cons_of_ne_nil hne,
        List.getLast?_eq_some_getLast hne]
      simp [hlast.notHere, hlast.notUp, hlast.nonempty]
    simp [hmeans]
  · have hmeans : meansDirectory (below (segments ++ [[]])) = true := by
      rw [meansDirectory, segments_directory hs, ← List.cons_append, List.getLast?_concat]
      rfl
    rw [if_pos ⟨hne, hmeans⟩, below_concat_nil hne]

theorem IsDirectory.resolve_root {t : Text} (h : IsDirectory t) : Path.resolve root t = t :=
  h.isCanonical.resolve_self rfl

theorem IsCanonical.exists_cons {t : Text} (h : IsCanonical t) :
    ∃ s, t = '/' :: s ∧ s.head? ≠ some '/' := by
  obtain ⟨segments, hs, rfl | rfl⟩ := h
  · have hhead := head?_glue_ne hs (.inl rfl)
    rw [List.append_nil] at hhead
    exact ⟨_, rfl, hhead⟩
  · exact ⟨_, rfl, head?_glue_ne hs (.inr rfl)⟩

theorem IsCanonical.not_dots {t segment : Text} (h : IsCanonical t)
    (hsegment : segment ∈ Path.segments t) : isHere segment = false ∧ isUp segment = false := by
  obtain ⟨segments, hs, rfl | rfl⟩ := h
  · by_cases hne : segments = []
    · subst hne
      have hroot : Path.segments (below []) = [[], []] := rfl
      rw [hroot] at hsegment
      obtain rfl : segment = [] := by simpa using hsegment
      exact ⟨rfl, rfl⟩
    · rw [segments_below hs hne, List.mem_cons] at hsegment
      rcases hsegment with rfl | hsegment
      · exact ⟨rfl, rfl⟩
      · exact ⟨(hs segment hsegment).notHere, (hs segment hsegment).notUp⟩
  · rw [segments_directory hs, List.mem_cons, List.mem_append, List.mem_singleton] at hsegment
    rcases hsegment with rfl | hsegment | rfl
    · exact ⟨rfl, rfl⟩
    · exact ⟨(hs segment hsegment).notHere, (hs segment hsegment).notUp⟩
    · exact ⟨rfl, rfl⟩

end RemoteShell.Path
