import Mathlib.Data.List.TakeWhile
import RemoteShell.Server
import RemoteShell.Proofs.Path
import RemoteShell.Proofs.Url.Percent

set_option autoImplicit false

namespace RemoteShell.Url

theorem percentEncode_append (keep : Char → Bool) (s t : Text) :
    percentEncode keep (s ++ t) = percentEncode keep s ++ percentEncode keep t :=
  List.flatMap_append

theorem percentEncode_eq_self {keep : Char → Bool} {s : Text} (h : ∀ c ∈ s, keep c = true) :
    percentEncode keep s = s := by
  induction s with
  | nil => rfl
  | cons c s ih =>
    rw [percentEncode_kept (h c List.mem_cons_self), ih fun d hd => h d (List.mem_cons_of_mem _ hd)]

theorem forall_mem_percentOctet (p : Char → Prop) (hp : p '%')
    (hdigit : ∀ n, p (Text.upperHexDigit n)) (octets : Octets) :
    ∀ c ∈ octets.flatMap percentOctet, p c := by
  intro c hc
  obtain ⟨b, -, hb⟩ := List.mem_flatMap.mp hc
  simp only [percentOctet, List.mem_cons, List.not_mem_nil, or_false] at hb
  rcases hb with rfl | rfl | rfl
  · exact hp
  · exact hdigit _
  · exact hdigit _

theorem isSome_hexValue?_upperHexDigit (n : Nat) :
    (Text.hexValue? (Text.upperHexDigit n)).isSome := by
  rw [Text.hexValue?_upperHexDigit]
  rfl

theorem isPathChar_of_mem_percentEncode {s : Text} :
    ∀ c ∈ percentEncode isPathChar s, isPathChar c = true := by
  intro c hc
  obtain ⟨d, -, hd⟩ := List.mem_flatMap.mp hc
  split at hd
  · next hkeep => rwa [List.mem_singleton.mp hd]
  · exact forall_mem_percentOctet (isPathChar · = true) (by decide)
      (fun n => isPathChar_of_hexValue? (isSome_hexValue?_upperHexDigit n)) _ c hd

theorem cut_percentEncode (s : Text) :
    Text.cut '/' (percentEncode isPathChar s) =
      (Text.cut '/' s).map (percentEncode isPathChar) := by
  induction s with
  | nil => rfl
  | cons c s ih =>
    by_cases hc : c = '/'
    · subst hc
      rw [percentEncode_kept (by decide), Text.cut_cons_self, Text.cut_cons_self, ih]
      rfl
    · obtain ⟨piece, pieces, hs⟩ := Text.exists_cut_eq_cons '/' s
      rw [hs, List.map_cons] at ih
      rw [Text.cut_cons_of_ne hc hs, List.map_cons, percentEncode_cons]
      rw [Text.cut_append_of_not_mem ?_ ih, percentEncode_cons]
      split
      · simpa using Ne.symm hc
      · intro hmem
        refine forall_mem_percentOctet (· ≠ '/') (by decide) (fun n hn => ?_) _ _ hmem rfl
        have hsome := isSome_hexValue?_upperHexDigit n
        rw [hn] at hsome
        exact absurd hsome (by decide)

theorem glue_map_percentEncode (ts : List Text) :
    Text.glue ['/'] (ts.map (percentEncode isPathChar)) =
      percentEncode isPathChar (Text.glue ['/'] ts) := by
  induction ts with
  | nil => rfl
  | cons t ts ih =>
    cases ts with
    | nil => rw [List.map_singleton, Text.glue_singleton, Text.glue_singleton]
    | cons u us =>
      rw [List.map_cons] at ih
      rw [List.map_cons, List.map_cons, Text.glue_cons_cons, ih, Text.glue_cons_cons,
        percentEncode_append, percentEncode_kept (c := '/') (by decide)]

theorem percentEncode_eq_iff {s t : Text} (ht : t.all isPathChar = true) (hp : '%' ∉ t) :
    percentEncode isPathChar s = t ↔ s = t := by
  constructor
  · rintro rfl
    refine (percentEncode_eq_self fun c hc => ?_).symm
    obtain ⟨before, after, rfl⟩ := List.append_of_mem hc
    refine Classical.byContradiction fun hkeep => ?_
    obtain ⟨rest, hrest⟩ := exists_percentEncode_cons hkeep after
    rw [percentEncode_append, hrest] at hp
    exact hp (by simp)
  · rintro rfl
    exact percentEncode_eq_self (List.all_eq_true.mp ht)

theorem keepSegment_map (kept : List Text) (segment : Text) :
    keepSegment (kept.map (percentEncode isPathChar)) (percentEncode isPathChar segment) =
      (keepSegment kept segment).map (percentEncode isPathChar) := by
  have hhere : percentEncode isPathChar segment = ['.'] ↔ segment = ['.'] :=
    percentEncode_eq_iff (by decide) (by decide)
  have hup : percentEncode isPathChar segment = ['.', '.'] ↔ segment = ['.', '.'] :=
    percentEncode_eq_iff (by decide) (by decide)
  have hkept : kept.map (percentEncode isPathChar) = [[]] ↔ kept = [[]] := by
    cases kept with
    | nil => simp
    | cons s rest => simp [percentEncode_eq_iff (s := s) (t := []) (by simp) (by simp)]
  simp only [keepSegment, hhere, hup, hkept, List.map_eq_nil_iff]
  split
  · rfl
  split
  · split
    · rfl
    · rw [List.map_drop]
  · rfl

theorem foldl_keepSegment_map (segments kept : List Text) :
    (segments.map (percentEncode isPathChar)).foldl keepSegment
        (kept.map (percentEncode isPathChar)) =
      (segments.foldl keepSegment kept).map (percentEncode isPathChar) := by
  induction segments generalizing kept with
  | nil => rfl
  | cons s rest ih => rw [List.map_cons, List.foldl_cons, keepSegment_map, ih, List.foldl_cons]

/-- Encoding adds no dots and hides none. -/
theorem removeDots_percentEncode (s : Text) :
    removeDots (percentEncode isPathChar s) = percentEncode isPathChar (removeDots s) := by
  have hfold := foldl_keepSegment_map (Text.cut '/' s) []
  rw [List.map_nil] at hfold
  rw [removeDots, cut_percentEncode, hfold, ← List.map_reverse, glue_map_percentEncode, removeDots]

theorem span_drop_le (kept : List Text) : Text.span (kept.drop 1) ≤ Text.span kept := by
  cases kept with
  | nil => exact Nat.le_refl _
  | cons s rest =>
    rw [List.drop_one, List.tail_cons, Text.span]
    omega

theorem span_foldl_keepSegment (segments kept : List Text) :
    Text.span (segments.foldl keepSegment kept) ≤ Text.span kept + Text.span segments := by
  induction segments generalizing kept with
  | nil => exact Nat.le_refl _
  | cons s rest ih =>
    have hstep : Text.span (keepSegment kept s) ≤ Text.span kept + (s.length + 1) := by
      have hdrop := span_drop_le kept
      unfold keepSegment
      split
      · omega
      split
      · split <;> omega
      · rw [Text.span]
        omega
    have hrest := ih (keepSegment kept s)
    rw [List.foldl_cons, Text.span]
    omega

theorem length_removeDots_le (s : Text) : (removeDots s).length ≤ s.length := by
  have hspan := span_foldl_keepSegment (Text.cut '/' s) []
  rw [Text.span_cut, ← Text.span_reverse] at hspan
  change _ ≤ 0 + (s.length + 1) at hspan
  unfold removeDots
  by_cases hnil : ((Text.cut '/' s).foldl keepSegment []).reverse = []
  · rw [hnil]
    exact Nat.zero_le _
  · rw [← Text.length_glue '/' hnil] at hspan
    omega

theorem foldl_keepSegment_eq {segments : List Text} (kept : List Text)
    (h : ∀ segment ∈ segments, segment ≠ ['.'] ∧ segment ≠ ['.', '.']) :
    segments.foldl keepSegment kept = segments.reverse ++ kept := by
  induction segments generalizing kept with
  | nil => rfl
  | cons s rest ih =>
    have hs := h s List.mem_cons_self
    rw [List.foldl_cons, keepSegment, if_neg hs.1, if_neg hs.2,
      ih _ fun t ht => h t (List.mem_cons_of_mem _ ht)]
    simp

theorem removeDots_eq_self {s : Text}
    (h : ∀ segment ∈ Text.cut '/' s, segment ≠ ['.'] ∧ segment ≠ ['.', '.']) :
    removeDots s = s := by
  rw [removeDots, foldl_keepSegment_eq [] h, List.append_nil, List.reverse_reverse, Text.glue_cut]

def bare (t : Text) : Text := (Text.cutOnce '?' (Text.cutOnce '#' t).1).1

/-- What a server sees of a path that was put in a URL. -/
def seen (t : Text) : Text :=
  let path := removeDots (bare t)
  if path.isEmpty then ['/'] else percentDecode path

/-- No part of the text means anything to a URL. -/
structure IsLiteral (t : Text) : Prop where
  noQuery : '?' ∉ t
  noFragment : '#' ∉ t
  noOctet : ¬HasOctet t

theorem bare_eq_takeWhile (t : Text) :
    bare t = (t.takeWhile (· ≠ '#')).takeWhile (· ≠ '?') := by
  rw [bare, Text.cutOnce_fst, Text.cutOnce_fst]

theorem bare_initial (t : Text) : bare t <+: t := by
  rw [bare_eq_takeWhile]
  exact (List.takeWhile_prefix _).trans (List.takeWhile_prefix _)

theorem bare_eq_self_iff (t : Text) : bare t = t ↔ '?' ∉ t ∧ '#' ∉ t := by
  constructor
  · intro h
    have hmem : ∀ c ∈ t, c ≠ '?' ∧ c ≠ '#' := by
      intro c hc
      rw [← h, bare_eq_takeWhile] at hc
      have hq := List.mem_takeWhile_imp hc
      have hf := List.mem_takeWhile_imp ((List.takeWhile_prefix _).subset hc)
      exact ⟨by simpa using hq, by simpa using hf⟩
    exact ⟨fun hq => (hmem _ hq).1 rfl, fun hf => (hmem _ hf).2 rfl⟩
  · rintro ⟨hq, hf⟩
    have htag : t.takeWhile (· ≠ '#') = t :=
      List.takeWhile_eq_self_iff.mpr fun c hc => by simpa using fun h : c = '#' => hf (h ▸ hc)
    rw [bare_eq_takeWhile, htag]
    exact List.takeWhile_eq_self_iff.mpr fun c hc => by simpa using fun h : c = '?' => hq (h ▸ hc)

theorem bare_slash (s : Text) : bare ('/' :: s) = '/' :: bare s := by
  rw [bare_eq_takeWhile, bare_eq_takeWhile, List.takeWhile_cons_of_pos (by decide),
    List.takeWhile_cons_of_pos (by decide)]

theorem length_seen_le (s : Text) : (seen ('/' :: s)).length ≤ (bare ('/' :: s)).length := by
  have hdots := length_removeDots_le (bare ('/' :: s))
  have hdecoded := length_percentDecode_le (removeDots (bare ('/' :: s)))
  unfold seen
  dsimp only
  split
  · rw [bare_slash]
    exact Nat.succ_le_succ (Nat.zero_le _)
  · omega

/-- A server sees a canonical path as it is if and only if no part of it means anything to a URL. -/
theorem seen_eq_self_iff {t : Text} (h : Path.IsCanonical t) : seen t = t ↔ IsLiteral t := by
  obtain ⟨s, hs, -⟩ := h.exists_cons
  have hdots : removeDots t = t := removeDots_eq_self fun segment hsegment => by
    obtain ⟨hhere, hup⟩ := h.not_dots hsegment
    exact ⟨by simpa [Path.isHere] using hhere, by simpa [Path.isUp] using hup⟩
  have hseen : bare t = t → seen t = percentDecode t := by
    intro hbare
    rw [seen, hbare, hdots, hs]
    rfl
  constructor
  · intro heq
    -- Nothing on the way to the server adds characters, so a lost query or fragment stays lost.
    have hlength : t.length ≤ (bare t).length := by
      have hle := length_seen_le s
      rw [← hs, heq] at hle
      exact hle
    have hbare : bare t = t := (bare_initial t).eq_of_length_le hlength
    obtain ⟨hq, hf⟩ := (bare_eq_self_iff t).mp hbare
    rw [hseen hbare] at heq
    exact ⟨hq, hf, (percentDecode_eq_self_iff t).mp heq⟩
  · rintro ⟨hq, hf, ho⟩
    rw [hseen ((bare_eq_self_iff t).mpr ⟨hq, hf⟩)]
    exact (percentDecode_eq_self_iff t).mpr ho

theorem refuseControls_eq_ok_iff (t : Text) :
    refuseControls t = .ok () ↔ ∀ c ∈ t, isControl c = false := by
  unfold refuseControls
  cases hindex : t.findIdx? isControl with
  | none => simpa using List.findIdx?_eq_none_iff.mp hindex
  | some index =>
    obtain ⟨hlt, hcontrol, -⟩ := List.findIdx?_eq_some_iff_getElem.mp hindex
    simp only [reduceCtorEq, false_iff]
    exact fun h => by simp [h _ (List.getElem_mem hlt)] at hcontrol

theorem parse_slash {s : Text} (h : s.head? ≠ some '/') :
    Reference.parse ('/' :: s) =
      ⟨[], [], bare ('/' :: s), (Text.cutOnce '?' (Text.cutOnce '#' ('/' :: s)).1).2,
        (Text.cutOnce '#' ('/' :: s)).2⟩ := by
  have hscheme : Reference.takeScheme ('/' :: s) = ([], '/' :: s) := rfl
  have hauthority : Reference.takeAuthority ('/' :: s) = ([], '/' :: s) := by
    cases s with
    | nil => rfl
    | cons c s =>
      have hc : c ≠ '/' := fun hc => h (congrArg some hc)
      simp [Reference.takeAuthority, hc]
  unfold Reference.parse
  rw [hscheme]
  dsimp only
  rw [hauthority]
  rfl

theorem head?_percentEncode_ne {s : Text} (h : s.head? ≠ some '/') :
    (percentEncode isPathChar s).head? ≠ some '/' := by
  cases s with
  | nil => exact h
  | cons c s =>
    by_cases hc : isPathChar c = true
    · rw [percentEncode_kept hc]
      exact h
    · obtain ⟨rest, hrest⟩ := exists_percentEncode_cons hc s
      simp [hrest]

theorem head?_bare_ne {s : Text} (h : s.head? ≠ some '/') : (bare s).head? ≠ some '/' := by
  intro hbare
  obtain ⟨rest, hrest⟩ := bare_initial s
  rw [← hrest, List.head?_append, hbare] at h
  exact h rfl

theorem exists_percentEncode_bare {s : Text} (h : s.head? ≠ some '/') :
    ∃ rest, percentEncode isPathChar (bare ('/' :: s)) = '/' :: rest ∧ rest.head? ≠ some '/' := by
  refine ⟨percentEncode isPathChar (bare s), ?_, head?_percentEncode_ne (head?_bare_ne h)⟩
  rw [bare_slash, percentEncode_kept (by decide)]

theorem cleanPath_relative {s : Text} (h : s.head? ≠ some '/') :
    cleanPath [] ⟨[], [], none⟩ (bare ('/' :: s)) =
      .ok (percentEncode isPathChar (bare ('/' :: s))) := by
  obtain ⟨rest, hrest, hhead⟩ := exists_percentEncode_bare h
  have hslashes : Text.hasPrefix ['/', '/'] ('/' :: rest) = false := by
    cases rest with
    | nil => rfl
    | cons c rest =>
      have hc : c ≠ '/' := fun hc => hhead (congrArg some hc)
      simp [Text.hasPrefix, List.isPrefixOf, Ne.symm hc]
  unfold cleanPath
  rw [hrest]
  dsimp only
  rw [hslashes]
  rfl

theorem clean_slash {s : Text} (h : s.head? ≠ some '/')
    (hc : ∀ c ∈ '/' :: s, isControl c = false) : ∃ query fragment, clean ('/' :: s) =
      .ok ⟨[], ⟨[], [], none⟩, percentEncode isPathChar (bare ('/' :: s)), query, fragment⟩ := by
  have hauthority : Authority.parse (Text.lowerAscii []) [] = .ok ⟨[], [], none⟩ := rfl
  unfold clean
  rw [(refuseControls_eq_ok_iff _).mpr hc, parse_slash h]
  dsimp only [bind, Except.bind]
  rw [hauthority]
  dsimp only
  rw [show Text.lowerAscii [] = [] from rfl, cleanPath_relative h]
  exact ⟨_, _, rfl⟩

end RemoteShell.Url

namespace RemoteShell.Base

open Url

def inMemory : Base := ⟨"http".toList, ⟨[], "vfs.test".toList, none⟩, ['/'], none⟩

theorem parse_inMemory : parse "http://vfs.test".toList = .ok inMemory := by rfl

theorem dropWhile_slash {rest tail : Text} (h : rest.head? ≠ some '/')
    (ht : tail.head? ≠ some '/') :
    ('/' :: rest ++ tail).dropWhile (· = '/') = rest ++ tail := by
  rw [List.cons_append, List.dropWhile_cons_of_pos (by decide)]
  have hhead : (rest ++ tail).head? ≠ some '/' := by
    cases rest with
    | nil => exact ht
    | cons c rest => exact h
  cases hs : rest ++ tail with
  | nil => rfl
  | cons c s =>
    rw [hs] at hhead
    rw [List.dropWhile_cons_of_neg]
    simpa using hhead

theorem takeWhile_path {path tail : Text} (h : ∀ c ∈ path, c ≠ '?')
    (ht : tail.head? = none ∨ tail.head? = some '?') :
    (path ++ tail).takeWhile (· ≠ '?') = path := by
  rw [List.takeWhile_append_of_pos fun c hc => by simpa using h c hc]
  cases tail with
  | nil => simp
  | cons c tail =>
    have hc : c = '?' := by simpa using ht
    rw [hc, List.takeWhile_cons_of_neg (by decide), List.append_nil]

/-- A rooted path goes into the URL encoded, without its query, its fragment and its dots. -/
theorem url_inMemory {s : Text} (h : s.head? ≠ some '/') (hc : ∀ c ∈ '/' :: s, isControl c = false)
    (query : Option Text) :
    inMemory.url ('/' :: s) query =
      .ok ⟨inMemory.scheme, inMemory.authority,
        percentEncode isPathChar (removeDots (bare ('/' :: s))), query, none⟩ := by
  obtain ⟨q, f, hclean⟩ := clean_slash h hc
  obtain ⟨rest, hrest, hhead⟩ := exists_percentEncode_bare h
  have hpath : ∀ c ∈ '/' :: rest, isPathChar c = true :=
    hrest ▸ isPathChar_of_mem_percentEncode
  have hquery : ∀ c ∈ '/' :: rest, c ≠ '?' := fun c hc hq => by
    have hp := hpath c hc
    rw [hq] at hp
    exact absurd hp (by decide)
  have hraw : ∃ tail : Text, (tail.head? = none ∨ tail.head? = some '?') ∧
      rawPath ⟨[], ⟨[], [], none⟩, '/' :: rest, q, f⟩ = '/' :: rest ++ tail := by
    cases q with
    | none => exact ⟨[], .inl rfl, rfl⟩
    | some q => exact ⟨'?' :: q, .inr rfl, rfl⟩
  obtain ⟨tail, htail, hraw⟩ := hraw
  have hslash : tail.head? ≠ some '/' := by
    rcases htail with htail | htail <;> rw [htail] <;> decide
  have hroot : inMemory.path ++ (rest ++ tail) = '/' :: rest ++ tail := rfl
  have hcleaned : cleanPath inMemory.scheme inMemory.authority ('/' :: rest) =
      .ok (removeDots ('/' :: rest)) := by
    unfold cleanPath
    rw [percentEncode_eq_self hpath]
    rfl
  unfold Base.url
  rw [hclean, hrest]
  dsimp only [bind, Except.bind]
  rw [hraw, dropWhile_slash hhead hslash, hroot, takeWhile_path hquery htail, hcleaned, ← hrest,
    removeDots_percentEncode]
  rfl

theorem url_inMemory_of_control {t : Text} (h : ∃ c ∈ t, isControl c = true) (query : Option Text) :
    ∃ fault, inMemory.url t query = .error fault := by
  obtain ⟨c, hmem, hcontrol⟩ := h
  cases hr : refuseControls t with
  | ok u =>
    rw [(refuseControls_eq_ok_iff t).mp hr c hmem] at hcontrol
    cases hcontrol
  | error fault =>
    refine ⟨fault, ?_⟩
    unfold Base.url clean
    rw [hr]
    rfl

theorem seenPath_encoded (t : Text) (scheme : Text) (authority : Authority)
    (query fragment : Option Text) :
    seenPath ⟨scheme, authority, percentEncode isPathChar (removeDots (bare t)), query, fragment⟩ =
      seen t := by
  have hempty : (percentEncode isPathChar (removeDots (bare t))).isEmpty =
      (removeDots (bare t)).isEmpty := by
    rw [Bool.eq_iff_iff, List.isEmpty_iff, List.isEmpty_iff]
    exact percentEncode_eq_iff (by simp) (by simp)
  rw [seenPath, hempty, percentDecode_percentEncode]
  rfl

end RemoteShell.Base

namespace RemoteShell.Url

theorem exists_untagged {lead : Text} (h : '#' ∉ lead) (s : Text) :
    ∃ rest, (untagged (lead ++ s)).1 = lead ++ rest := by
  have hlead : lead.reverse.takeWhile (· ≠ '#') = lead.reverse :=
    List.takeWhile_eq_self_iff.mpr fun c hc => by
      simpa using fun ht : c = '#' => h (List.mem_reverse.mp (ht ▸ hc))
  have hle := (List.takeWhile_prefix (l := s.reverse) (· ≠ '#')).length_le
  unfold untagged
  dsimp only
  rw [List.reverse_append, List.takeWhile_append, hlead]
  split
  · exact ⟨s, by rw [if_pos (by simp [Nat.add_comm])]⟩
  · next hne =>
    rw [List.length_reverse] at hle hne
    rw [if_neg (by rw [List.length_append]; omega), List.take_append]
    refine ⟨s.take _, congrArg (· ++ _) (List.take_of_length_le ?_)⟩
    rw [List.length_append]
    omega

structure IsScheme (scheme : Text) : Prop where
  nonempty : scheme ≠ []
  unmarked : ∀ c ∈ scheme, c ≠ '#' ∧ c ≠ '/' ∧ c ≠ ':'

theorem isTyped_of_isScheme {u : Url} (h : IsScheme u.scheme) : u.isTyped = true := by
  have htext : ∃ s, u.text = (u.scheme ++ [':']) ++ s := by
    unfold text
    rw [if_neg (by simpa using h.nonempty)]
    simp only [List.append_assoc]
    exact ⟨_, rfl⟩
  obtain ⟨s, hs⟩ := htext
  have htag : '#' ∉ u.scheme ++ [':'] := by
    simpa using fun hm => (h.unmarked '#' hm).1 rfl
  obtain ⟨rest, hrest⟩ := exists_untagged htag s
  obtain ⟨c, word, hc⟩ := List.exists_cons_of_ne_nil h.nonempty
  have hword : ∀ c ∈ u.scheme, (c != '/' && c != ':') = true := by
    intro c hm
    simpa using (h.unmarked c hm).2
  unfold isTyped
  dsimp only
  rw [hs, hrest, List.append_assoc, List.dropWhile_append_of_pos hword, List.head?_append, hc]
  rw [hc] at hword
  simpa using hword c List.mem_cons_self

theorem isScheme_http : IsScheme "http".toList := by
  refine ⟨List.cons_ne_nil _ _, ?_⟩
  change ∀ c ∈ ['h', 't', 't', 'p'], _
  simp only [List.forall_mem_cons, List.not_mem_nil, IsEmpty.forall_iff, implies_true, and_true]
  decide

end RemoteShell.Url
