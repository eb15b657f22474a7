import Mathlib.Data.List.Basic
import RemoteShell.Proofs.Markup.Legible
import RemoteShell.Proofs.Text.Cut
import RemoteShell.Proofs.Text.Strip

set_option autoImplicit false

namespace RemoteShell

namespace Text

variable {c : Char} {s : Text}

theorem mem_of_mem_cut {piece : Text} {d : Char} (hpiece : piece ∈ cut c s) (hd : d ∈ piece) :
    d ∈ s := by
  induction s generalizing piece with
  | nil =>
    rw [cut, List.mem_singleton] at hpiece
    rwa [hpiece] at hd
  | cons e s ih =>
    by_cases he : e = c
    · subst he
      rw [cut_cons_self, List.mem_cons] at hpiece
      rcases hpiece with rfl | hpiece
      · cases hd
      · exact List.mem_cons_of_mem _ (ih hpiece hd)
    · obtain ⟨first, pieces, hs⟩ := exists_cut_eq_cons c s
      rw [cut_cons_of_ne he hs, List.mem_cons] at hpiece
      rcases hpiece with rfl | hpiece
      · rcases List.mem_cons.mp hd with rfl | hd
        · exact List.mem_cons_self
        · exact List.mem_cons_of_mem _ (ih (hs ▸ List.mem_cons_self) hd)
      · exact List.mem_cons_of_mem _ (ih (hs ▸ List.mem_cons_of_mem _ hpiece) hd)

theorem flatMap_end (c : Char) {ts : List Text} (h : ts ≠ []) :
    ts.flatMap (fun t => t ++ [c]) = glue [c] ts ++ [c] := by
  induction ts with
  | nil => exact absurd rfl h
  | cons t ts ih =>
    by_cases hts : ts = []
    · subst hts
      rw [glue_singleton, List.flatMap_singleton]
    · rw [List.flatMap_cons, ih hts, glue_cons_of_ne_nil c t hts]
      simp

end Text

namespace Console

theorem cellWidth_le (c : Char) : cellWidth c ≤ 2 := by
  unfold cellWidth
  repeat' split
  all_goals omega

theorem widthAfter_le (shown : Option Char) (s : Text) : widthAfter shown s ≤ 2 * s.length := by
  fun_induction widthAfter shown s with
  | case1 => exact Nat.zero_le _
  | case2 => exact Nat.zero_le _
  | case3 shown c rest ih =>
    simp only [List.length_cons]
    omega
  | case4 shown rest ih =>
    simp only [List.length_cons]
    split <;> omega
  | case5 shown c rest =>
    rename_i ih
    have hc := cellWidth_le c
    simp only [List.length_cons]
    omega

theorem width_le (s : Text) : width s ≤ 2 * s.length := widthAfter_le none s

theorem flatten_pieces (line : Text) : (pieces line).flatten = line := by
  fun_induction pieces line with
  | case1 => rfl
  | case2 => rfl
  | case3 c d rest _ ih => rw [List.flatten_cons, ih]; rfl
  | case4 c d rest _ hnil ih =>
    rw [hnil] at ih
    cases ih
  | case5 c d rest _ piece more hpieces ih =>
    rw [hpieces] at ih
    rw [← ih]
    rfl

theorem flatten_words {line : Text} (h : words line ≠ []) : (words line).flatten = line := by
  have hflatten := flatten_pieces line
  unfold words at h ⊢
  split
  · next first second rest hpieces =>
    rw [hpieces] at hflatten
    split
    · rw [← hflatten, List.flatten_cons, List.flatten_cons, List.flatten_cons, List.append_assoc]
    · exact hflatten
  · next only hpieces =>
    rw [hpieces] at h hflatten
    dsimp only at h
    split at h
    · exact absurd rfl h
    · next hblank => rwa [if_neg hblank]
  · next hpieces =>
    rw [hpieces] at h
    exact absurd rfl h

variable {w : Nat}

theorem fill_of_fits {row : Text} {ws : List Text} (h : 2 * (row ++ ws.flatten).length ≤ w) :
    fill w row ws = [row ++ ws.flatten] := by
  induction ws generalizing row with
  | nil => rw [fill, List.flatten_nil, List.append_nil]
  | cons word ws ih =>
    have hsolid := (Text.stripRight_isPrefix word).length_le
    have hrow := width_le row
    have hword := width_le (Text.stripRight word)
    rw [List.flatten_cons, ← List.append_assoc] at h ⊢
    have hfits : width row + width (Text.stripRight word) ≤ w := by
      simp only [List.length_append] at h
      omega
    rw [fill, if_pos hfits, ih h]

theorem rows_of_fits {line : Text} (h : 2 * line.length ≤ w) : rows w line = [line] := by
  have hfilled : (if (words line).isEmpty then [line] else fill w [] (words line)) = [line] := by
    split
    · rfl
    · next hwords =>
      have hflatten : (words line).flatten = line := flatten_words (by simpa using hwords)
      rw [fill_of_fits (by rwa [List.nil_append, hflatten]), List.nil_append, hflatten]
  have hlength : line.length - w = 0 := by omega
  have hwidth : width line ≤ w := Nat.le_trans (width_le line) h
  unfold rows
  rw [hfilled, List.map_singleton, trimRow, hlength, Nat.min_zero, Nat.sub_zero, List.take_length,
    clip, if_pos hwidth]

/-- What a console shows of a text whose lines it has room for. -/
def unrolled (s : Text) : Text :=
  ((Text.cut '\n' (s.filter fun c => !isSilent c)).map expandTabs).flatMap fun row => row ++ ['\n']

theorem exists_layOut_eq (s : Text) : ∃ n, ∀ w ≥ n, layOut w s = unrolled s := by
  let lines := Text.cut '\n' (s.filter fun c => !isSilent c)
  refine ⟨2 * (lines.map expandTabs).flatten.length, fun w hw => ?_⟩
  have hrows : lines.flatMap (fun line => rows w (expandTabs line)) = lines.map expandTabs := by
    rw [List.map_eq_flatMap]
    refine List.flatMap_congr fun line hline => ?_
    have hmem : expandTabs line ∈ lines.map expandTabs := List.mem_map_of_mem hline
    have hle := (List.sublist_flatten_of_mem hmem).length_le
    exact rows_of_fits (Nat.le_trans (Nat.mul_le_mul_left 2 hle) hw)
  exact congrArg (List.flatMap fun row => row ++ ['\n']) hrows

theorem mem_joinTabs {column : Nat} {parts : List Text} {c : Char} (h : c ∈ joinTabs column parts) :
    c = ' ' ∨ ∃ part ∈ parts, c ∈ part := by
  fun_induction joinTabs column parts with
  | case1 => cases h
  | case2 column last => exact .inr ⟨last, List.mem_cons_self, h⟩
  | case3 column part next rest =>
    rename_i ih
    rcases List.mem_append.mp h with h | h
    · rcases List.mem_append.mp h with h | h
      · rcases List.mem_append.mp h with h | h
        · exact .inr ⟨part, List.mem_cons_self, h⟩
        · exact .inl (List.mem_singleton.mp h)
      · exact .inl (List.eq_of_mem_replicate h)
    · rcases ih h with h | ⟨p, hp, h⟩
      · exact .inl h
      · exact .inr ⟨p, List.mem_cons_of_mem _ hp, h⟩

theorem mem_unrolled {s : Text} {c : Char} (h : c ∈ unrolled s) :
    c ≠ '\t' ∧ isSilent c = false := by
  obtain ⟨row, hrow, hc⟩ := List.mem_flatMap.mp h
  obtain ⟨line, hline, rfl⟩ := List.mem_map.mp hrow
  rcases List.mem_append.mp hc with hc | hc
  · rcases mem_joinTabs hc with rfl | ⟨part, hpart, hc⟩
    · decide
    · have hs := Text.mem_of_mem_cut hline (Text.mem_of_mem_cut hpart hc)
      refine ⟨?_, by simpa using (List.mem_filter.mp hs).2⟩
      rintro rfl
      exact Text.not_mem_of_mem_cut hpart hc
  · rw [List.mem_singleton.mp hc]
    decide

theorem unrolled_eq {s : Text} (h : ∀ c ∈ s, isSilent c = false ∧ c ≠ '\t') :
    unrolled s = s ++ ['\n'] := by
  have hfilter : (s.filter fun c => !isSilent c) = s :=
    List.filter_eq_self.mpr fun c hc => by simp [(h c hc).1]
  have hlines : (Text.cut '\n' s).map expandTabs = Text.cut '\n' s := by
    refine (List.map_congr_left fun line hline => ?_).trans (List.map_id _)
    have htab : '\t' ∉ line := fun hc => (h '\t' (Text.mem_of_mem_cut hline hc)).2 rfl
    rw [expandTabs, Text.cut_of_not_mem htab, joinTabs]
    rfl
  rw [unrolled, hfilter, hlines, Text.flatMap_end _ (Text.cut_ne_nil _ _), Text.glue_cut]

end Console

end RemoteShell
