import Mathlib.Data.Bool.AllAny
import RemoteShell.Proofs.Console.Wide
import RemoteShell.Proofs.Markup.Reread
import RemoteShell.Proofs.Transcript

/-! What a file is shown as. Most texts come out as they are, under a title of which the same holds;
the exceptions have backslashes before brackets or at an end. -/

set_option autoImplicit false

namespace RemoteShell

namespace Markup

variable {segs : List Segment}

theorem segments_lead {lead : Text} (h : lead.all isPlain = true) (s : Text) :
    segments (lead ++ s) = lead.map .char ++ segments s := by
  induction lead with
  | nil => rfl
  | cons c lead ih =>
    rw [List.all_cons, Bool.and_eq_true] at h
    rw [List.cons_append, segments_plain h.1, ih h.2]
    rfl

theorem reread_lead {lead : Text} (h : lead.all isPlain = true) (segs : List Segment) :
    reread (lead.map .char ++ segs) = lead ++ reread segs := by
  induction lead with
  | nil => rfl
  | cons c lead ih =>
    rw [List.all_cons, Bool.and_eq_true] at h
    rw [List.map_cons, List.cons_append, reread, ih h.2]
    · rfl
    · rintro rest - rfl
      exact absurd h.1 (by decide)

theorem readFrom_tag {n index start : Nat} {opened opened' : List Opened} {body : Text}
    {spans : List Span} (h : n % 2 = 0)
    (htag : readTag (index + n) (start + n / 2) opened body = .ok (opened', spans)) :
    readFrom index start opened (.bracket n body :: segs) =
      (readFrom (index + n + body.length + 2) (start + n / 2) opened' segs).map
        (.after (slashes (n / 2)) spans) := by
  rw [readFrom, if_neg (by omega), htag]
  rfl

theorem slashes_append_eq_iff {c d : Char} (hc : c ≠ '\\') (hd : d ≠ '\\') (j k : Nat)
    (x y : Text) :
    slashes j ++ c :: x = slashes k ++ d :: y ↔ j = k ∧ c = d ∧ x = y := by
  induction j generalizing k with
  | zero =>
    cases k with
    | zero => simp [slashes]
    | succ k =>
      refine iff_of_false (fun h => ?_) fun h => ?_
      · exact hc (List.cons.inj h).1
      · exact Nat.succ_ne_zero k h.1.symm
  | succ j ih =>
    cases k with
    | zero =>
      refine iff_of_false (fun h => ?_) fun h => ?_
      · exact hd (List.cons.inj h).1.symm
      · exact Nat.succ_ne_zero j h.1
    | succ k =>
      rw [Nat.add_right_cancel_iff, ← ih k]
      change '\\' :: (slashes j ++ c :: x) = '\\' :: (slashes k ++ d :: y) ↔ _
      rw [List.cons.injEq, and_iff_right rfl]

theorem slashes_inj {j k : Nat} : slashes j = slashes k ↔ j = k := by
  simp [slashes]

end Markup

namespace FileCommand

open Markup

/-- How a file ought to be shown. -/
def shownFile (t text : Text) : Text := "File ".toList ++ (t ++ '\n' :: text)

def titleSpan (t : Text) : Span := ⟨"bold".toList, 0, 5 + t.length⟩

/-- A target and a text that come out of the markup as they are. -/
structure IsKept (t text : Text) : Prop where
  title : Keeps t
  content : Keeps text
  closed : ¬['\\', '\\'] <:+ t
  ended : ['\\'] <:+ text → ['\\', '\\'] <:+ text

/-- The text that the markup of a file is read as. The tag that ends the title is in it if the
backslashes before it are odd in number. -/
def readFile (u : Text) (j : Nat) (v : Text) (k : Nat) : Text :=
  "File ".toList ++ (reread (segments u) ++ (slashes (trail j / 2) ++
    ((if trail j % 2 = 0 then [] else "[/bold]".toList) ++
      '\n' :: (reread (segments v) ++ slashes (trail k)))))

variable {u v : Text}

theorem segments_content (hu : IsSolid u) (j : Nat) (text : Text) :
    segments (content (u ++ slashes j) text) =
      .bracket 0 "bold".toList ::
        (("File ".toList.map Segment.char ++ segments u).map (Segment.scale (2 * · + 1)) ++
          .bracket (trail j) ('/' :: "bold".toList) :: .char '\n' :: segments (escape text)) := by
  have hbold : IsStyle "bold".toList := isStyle (by decide)
  have htext : content (u ++ slashes j) text = List.replicate 0 '\\' ++ '[' :: ("bold".toList ++
      ']' :: ("File ".toList ++ (escape (u ++ slashes j) ++
        '[' :: (('/' :: "bold".toList) ++ ']' :: ('\n' :: escape text))))) := by
    simp [content, title, tagged]
  rw [htext, segments_tag 0 hbold.body, segments_lead (by decide),
    hu.segments_escape_append j hbold.body.closing, segments_char (by decide) (by decide),
    List.map_append, List.append_assoc]
  rfl

theorem read_content (hu : IsSolid u) (hv : IsSolid v) (j k : Nat) :
    ∃ styled, Markup.read (content (u ++ slashes j) (v ++ slashes k)) = .ok styled ∧
      styled.text = readFile u j v k ∧ (trail j % 2 = 0 → styled.spans =
        [⟨"bold".toList, 0, 5 + (reread (segments u)).length + trail j / 2⟩]) := by
  have hbold : IsStyle "bold".toList := isStyle (by decide)
  have hmore : (Segment.bracket (trail j) ('/' :: "bold".toList) :: .char '\n' ::
      segments (escape (v ++ slashes k))).head? ≠ some (.char '[') := nofun
  rw [Markup.read, segments_content hu, readFrom_tag rfl (hbold.readTag_opening 0 0 []),
    readFrom_escaped _ hmore, reread_lead (by decide), after_after]
  have hline : '\n' = '\\' → (segments (escape (v ++ slashes k))).head? ≠ some (.char '[') :=
    fun h => absurd h (by decide)
  by_cases heven : trail j % 2 = 0
  · have hfound : [(⟨"bold".toList, none, 0⟩ : Opened)].find? (fun t => t.name == "bold".toList) =
        some ⟨"bold".toList, none, 0⟩ := rfl
    rw [readFrom_tag heven (hbold.readTag_closing _ _ hfound), readFrom_char hline, after_after,
      after_after]
    obtain ⟨stop, hlast⟩ := hv.readFrom_escape k _ _ _
    rw [hlast]
    refine ⟨_, rfl, ?_, fun _ => ?_⟩
    · delta readFile
      rw [if_pos heven]
      simp [Styled.after, slashes]
    · simp [Styled.after, Opened.span]
      omega
  · have hodd : trail j % 2 = 1 := by omega
    rw [readFrom_literal hodd, readFrom_char hline, after_after, after_after]
    obtain ⟨stop, hlast⟩ := hv.readFrom_escape k _ _ _
    rw [hlast]
    refine ⟨_, rfl, ?_, fun h => absurd h heven⟩
    delta readFile
    rw [if_neg heven]
    simp [Styled.after, slashes]

theorem isKept_iff (hu : IsSolid u) (hv : IsSolid v) (j k : Nat) :
    IsKept (u ++ slashes j) (v ++ slashes k) ↔
      ¬loose <:+: segments u ∧ j ≤ 1 ∧ ¬loose <:+: segments v ∧ k ≠ 1 := by
  have hclosed : ¬['\\', '\\'] <:+ u ++ slashes j ↔ j ≤ 1 :=
    (hu.slashes_suffix_iff 2 j).not.trans (by omega)
  have hended : (['\\'] <:+ v ++ slashes k → ['\\', '\\'] <:+ v ++ slashes k) ↔ k ≠ 1 :=
    (imp_congr (hv.slashes_suffix_iff 1 k) (hv.slashes_suffix_iff 2 k)).trans (by omega)
  rw [← hu.keeps_append_iff j, ← hv.keeps_append_iff k, ← hclosed, ← hended]
  exact ⟨fun h => ⟨h.title, h.closed, h.content, h.ended⟩, fun ⟨ht, hc, hx, he⟩ => ⟨ht, hx, hc, he⟩⟩

theorem reread_segments_append_eq_iff (s x y : Text) :
    reread (segments s) ++ x = s ++ y ↔ ¬loose <:+: segments s ∧ x = y := by
  have h := reread_append_eq_iff (segments s) x y
  rwa [scaled_id (cuts_segments s)] at h

/-- The text of a markup is that of the file only where nothing is dropped, doubled or disabled. -/
theorem text_eq_iff (hu : IsSolid u) (hv : IsSolid v) (j k : Nat) :
    readFile u j v k = shownFile (u ++ slashes j) (v ++ slashes k) ↔
      IsKept (u ++ slashes j) (v ++ slashes k) := by
  have hfile : shownFile (u ++ slashes j) (v ++ slashes k) =
      "File ".toList ++ (u ++ (slashes j ++ '\n' :: (v ++ slashes k))) :=
    congrArg _ (List.append_assoc _ _ _)
  delta readFile
  rw [hfile, List.append_cancel_left_eq, reread_segments_append_eq_iff, isKept_iff hu hv]
  refine and_congr_right fun _ => ?_
  by_cases heven : trail j % 2 = 0
  · have htitle : trail j / 2 = j ↔ j ≤ 1 := by
      unfold trail at heven ⊢
      split <;> omega
    have htext : slashes (trail k) = slashes k ↔ k ≠ 1 := by
      rw [slashes_inj, trail]
      split <;> omega
    rw [if_pos heven, List.nil_append, slashes_append_eq_iff (by decide) (by decide), htitle,
      reread_segments_append_eq_iff, htext, and_iff_right rfl]
  · -- An odd number of backslashes is three at least, and leaves the tag in the text.
    have hmany : ¬j ≤ 1 := by
      unfold trail at heven
      split at heven <;> omega
    have hmark : ('[' : Char) ≠ '\n' := by decide
    rw [if_neg heven]
    refine iff_of_false (fun h => ?_) fun h => hmany h.1
    exact hmark ((slashes_append_eq_iff (by decide) (by decide) _ _ _ _).mp h).2.1

theorem read_content_eq_iff (t text : Text) :
    Markup.read (content t text) = .ok ⟨shownFile t text, [titleSpan t]⟩ ↔ IsKept t text := by
  obtain ⟨u, j, hu, rfl⟩ := exists_solid t
  obtain ⟨v, k, hv, rfl⟩ := exists_solid text
  obtain ⟨styled, hread, htext, hspans⟩ := read_content hu hv j k
  rw [hread, ← text_eq_iff hu hv, ← htext]
  constructor
  · intro h
    rw [Except.ok.inj h]
  · intro h
    have hkept := (text_eq_iff hu hv j k).mp (htext.symm.trans h)
    obtain ⟨hloose, hclosed, -, -⟩ := (isKept_iff hu hv j k).mp hkept
    have htitle : reread (segments u) = u := by
      simpa using (reread_segments_append_eq_iff u [] []).mpr ⟨hloose, rfl⟩
    have hhalf : trail j / 2 = j ∧ trail j % 2 = 0 := by
      unfold trail
      split <;> omega
    have hspan : 5 + (reread (segments u)).length + trail j / 2 = 5 + (u ++ slashes j).length := by
      rw [htitle, hhalf.1, List.length_append, slashes, List.length_replicate, Nat.add_assoc]
    have htitled : [titleSpan (u ++ slashes j)] = styled.spans := by
      rw [hspans hhalf.2, hspan]
      rfl
    rw [htitled, ← h]

def IsPrinted (c : Char) : Prop := Console.isSilent c = false ∧ c ≠ '\t'

instance : DecidablePred IsPrinted := fun c =>
  inferInstanceAs (Decidable (Console.isSilent c = false ∧ c ≠ '\t'))

theorem forall_mem_shownFile (t text : Text) :
    (∀ c ∈ shownFile t text, IsPrinted c) ↔ ∀ c ∈ t ++ text, IsPrinted c := by
  have hword : ∀ c ∈ "File ".toList, IsPrinted c := List.all_iff_forall_prop.mp (by decide)
  have hline : IsPrinted '\n' := by decide
  change (∀ c ∈ "File ".toList ++ (t ++ '\n' :: text), IsPrinted c) ↔ _
  rw [List.forall_mem_append, List.forall_mem_append, List.forall_mem_append,
    List.forall_mem_cons]
  exact ⟨fun ⟨_, ht, _, htext⟩ => ⟨ht, htext⟩, fun ⟨ht, htext⟩ => ⟨hword, ht, hline, htext⟩⟩

theorem forall_mem_reread {p : Char → Prop} {s : Text} (h : ∀ c ∈ s, p c) :
    ∀ c ∈ reread (segments s), p c := by
  rw [← scaled_id (cuts_segments s)] at h
  exact fun c hc => h c (mem_scaled_of_mem_reread hc)

theorem isPrinted_of_mem_readFile (hu : ∀ c ∈ u, IsPrinted c) (hv : ∀ c ∈ v, IsPrinted c)
    (j k : Nat) : ∀ c ∈ readFile u j v k, IsPrinted c := by
  have hword : ∀ c ∈ "File ".toList, IsPrinted c := List.all_iff_forall_prop.mp (by decide)
  have htag : ∀ c ∈ (if trail j % 2 = 0 then [] else "[/bold]".toList), IsPrinted c := by
    split
    · exact List.forall_mem_nil _
    · exact List.all_iff_forall_prop.mp (by decide)
  have hslashes (n : Nat) : ∀ c ∈ slashes n, IsPrinted c := fun c hc => by
    rw [List.eq_of_mem_replicate hc]
    decide
  have hline : IsPrinted '\n' := by decide
  delta readFile
  rw [List.forall_mem_append, List.forall_mem_append, List.forall_mem_append,
    List.forall_mem_append, List.forall_mem_cons, List.forall_mem_append]
  exact ⟨hword, forall_mem_reread hu, hslashes _, htag, hline, forall_mem_reread hv, hslashes _⟩

theorem shown_content {t text : Text} {styled : Styled}
    (hread : Markup.read (content t text) = .ok styled) (sequence : Int) (line : Text)
    (width : Nat) :
    Result.shown ⟨content t text, false, sequence, line⟩ width =
      .ok (Console.layOut width styled.text) :=
  Console.print_eq (legible_content t text) hread width

/-- A console that is wide enough shows the file as it is only where the markup is read so, and no
character of it is a silent control or a tab. -/
theorem shown_content_iff (t text : Text) (sequence : Int) (line : Text) :
    (∃ n, ∀ width ≥ n, Result.shown ⟨content t text, false, sequence, line⟩ width =
        .ok (shownFile t text ++ ['\n'])) ↔
      IsKept t text ∧ ∀ c ∈ t ++ text, IsPrinted c := by
  constructor
  · rintro ⟨n, hshown⟩
    obtain ⟨u, j, hu, rfl⟩ := exists_solid t
    obtain ⟨v, k, hv, rfl⟩ := exists_solid text
    obtain ⟨styled, hread, htext, -⟩ := read_content hu hv j k
    obtain ⟨m, hwide⟩ := Console.exists_layOut_eq styled.text
    -- At a width that has room for both, what is printed tells what the markup is read as.
    have hlast := hshown (max n m) (Nat.le_max_left n m)
    rw [shown_content hread, hwide _ (Nat.le_max_right n m)] at hlast
    have hunrolled := Except.ok.inj hlast
    have hprinted : ∀ c ∈ shownFile (u ++ slashes j) (v ++ slashes k), IsPrinted c := by
      intro c hc
      obtain ⟨htab, hsilent⟩ := Console.mem_unrolled (hunrolled ▸ List.mem_append_left _ hc)
      exact ⟨hsilent, htab⟩
    rw [forall_mem_shownFile] at hprinted
    refine ⟨(text_eq_iff hu hv j k).mp ?_, hprinted⟩
    have hkept : ∀ c ∈ styled.text, IsPrinted c := by
      rw [htext]
      refine isPrinted_of_mem_readFile (fun c hc => hprinted c ?_) (fun c hc => hprinted c ?_) j k
      · exact List.mem_append_left _ (List.mem_append_left _ hc)
      · exact List.mem_append_right _ (List.mem_append_left _ hc)
    rw [Console.unrolled_eq hkept] at hunrolled
    rw [← htext]
    exact List.append_cancel_right hunrolled
  · rintro ⟨hkept, hprinted⟩
    have hread := (read_content_eq_iff t text).mpr hkept
    obtain ⟨n, hwide⟩ := Console.exists_layOut_eq (shownFile t text)
    refine ⟨n, fun width hwidth => ?_⟩
    rw [shown_content hread, hwide width hwidth,
      Console.unrolled_eq ((forall_mem_shownFile t text).mpr hprinted)]

/-- The commands that show a file answer with its text under its path. The markup is read as just
that, and printed so where there is room, if and only if no backslash is before a bracket without a
tag, the path does not end in two backslashes and the text does not end in a single one; on a
console there may be no silent control and no tab either. -/
theorem shown_iff_kept (t text : Text) :
    (∀ c ∈ [FileCommand.read, .cat], ∀ workPath a, target workPath a = t →
      ∃ call answer, c.plan workPath a = .ask call answer ∧
        ∀ r : Response, r.text = text → answer r = .ok (content t text)) ∧
    (Markup.read (content t text) = .ok ⟨shownFile t text, [titleSpan t]⟩ ↔ IsKept t text) ∧
    ∀ (sequence : Int) line,
      (∃ n, ∀ width ≥ n, Result.shown ⟨content t text, false, sequence, line⟩ width =
        .ok (shownFile t text ++ ['\n'])) ↔
      IsKept t text ∧ ∀ c ∈ t ++ text, IsPrinted c := by
  refine ⟨fun c hc workPath a htarget => ?_, read_content_eq_iff t text, fun sequence line =>
    shown_content_iff t text sequence line⟩
  have hplan : ∃ call, c.plan workPath a =
      .ask call fun r => .ok (content (target workPath a) r.text) := by
    simp only [List.mem_cons, List.not_mem_nil, or_false] at hc
    rcases hc with rfl | rfl <;> exact ⟨_, rfl⟩
  obtain ⟨call, hcall⟩ := hplan
  refine ⟨call, _, hcall, fun r htext => ?_⟩
  rw [htarget, htext]

def taggedText : Text := "[red]\\[b]\\\\[/c][0]\\\\".toList

theorem shown_iff_kept_tagged :
    Markup.read (content "/a\\".toList taggedText) =
        .ok ⟨"File /a\\\n[red]\\[b]\\\\[/c][0]\\\\".toList, [⟨"bold".toList, 0, 8⟩]⟩ ∧
      ∃ n, ∀ width ≥ n, Result.shown ⟨content "/a\\".toList taggedText, false, 0, []⟩ width =
        .ok ("File /a\\\n[red]\\[b]\\\\[/c][0]\\\\".toList ++ ['\n']) := by
  have hkept : IsKept "/a\\".toList taggedText :=
    ⟨by decide, by decide +kernel, by decide, by decide⟩
  have hfile : shownFile "/a\\".toList taggedText =
      "File /a\\\n[red]\\[b]\\\\[/c][0]\\\\".toList := by decide
  have hspan : titleSpan "/a\\".toList = ⟨"bold".toList, 0, 8⟩ := by decide
  obtain ⟨-, hread, hshown⟩ := shown_iff_kept "/a\\".toList taggedText
  rw [hfile, hspan] at hread
  have hprinted := (hshown 0 []).mpr ⟨hkept, List.all_iff_forall_prop.mp (by decide)⟩
  rw [hfile] at hprinted
  exact ⟨hread.mpr hkept, hprinted⟩

/-- A backslash before a bracket with digits is lost. -/
theorem not_shown_digits :
    Result.shown ⟨content "/a".toList "\\[0-9]+".toList, false, 0, "read /a".toList⟩ 80 =
        .ok "File /a\n[0-9]+\n".toList ∧
      ¬∀ t text, Markup.read (content t text) = .ok ⟨shownFile t text, [titleSpan t]⟩ := by
  refine ⟨by decide +kernel, fun h => ?_⟩
  have hkept := (read_content_eq_iff _ _).mp (h "/a".toList "\\[0-9]+".toList)
  exact absurd hkept.content (by decide)

end FileCommand

end RemoteShell
