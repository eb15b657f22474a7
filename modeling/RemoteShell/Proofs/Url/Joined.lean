import RemoteShell.Proofs.Url.Typed

set_option autoImplicit false

namespace RemoteShell

namespace Url

def isTypeChar (c : Char) : Bool := c != '/' && c != ':'

def startsTyped (s : Text) : Bool :=
  s.head?.any isTypeChar && (s.dropWhile isTypeChar).head? = some ':'

theorem isTyped_eq_startsTyped (u : Url) : u.isTyped = startsTyped (untagged u.text).1 := rfl

theorem untagged_append {lead : Text} (h : '#' ∉ lead) (s : Text) :
    (untagged (lead ++ s)).1 = lead ++ (untagged s).1 := by
  have hlead : lead.reverse.takeWhile (· ≠ '#') = lead.reverse :=
    List.takeWhile_eq_self_iff.mpr fun c hc => by
      simpa using fun ht : c = '#' => h (List.mem_reverse.mp (ht ▸ hc))
  have hle := (List.takeWhile_prefix (l := s.reverse) (· ≠ '#')).length_le
  unfold untagged
  dsimp only
  rw [List.reverse_append, List.takeWhile_append, hlead]
  split
  · next hall =>
    rw [List.length_reverse] at hall
    rw [if_pos (by simp [Nat.add_comm]), if_pos hall]
  · next hne =>
    rw [List.length_reverse] at hle hne
    have htag : lead.length + s.length - (s.reverse.takeWhile (· ≠ '#')).length - 1 =
        lead.length + (s.length - (s.reverse.takeWhile (· ≠ '#')).length - 1) := by omega
    rw [if_neg (by rw [List.length_append]; omega), if_neg hne, List.length_append, htag,
      List.take_length_add_append]

variable {lead : Text}

theorem startsTyped_append (h : ∃ c ∈ lead, isTypeChar c = false) (s : Text) :
    startsTyped (lead ++ s) = startsTyped lead := by
  obtain ⟨c, hc, hmark⟩ := h
  have hhead : (lead ++ s).head? = lead.head? := by
    obtain ⟨d, rest, rfl⟩ := List.exists_cons_of_ne_nil (List.ne_nil_of_mem hc)
    rfl
  have hdrop : (lead.dropWhile isTypeChar) ≠ [] := fun hnil =>
    absurd (List.dropWhile_eq_nil_iff.mp hnil c hc) (by simp [hmark])
  unfold startsTyped
  rw [hhead, List.dropWhile_append, if_neg (by simpa using hdrop)]
  obtain ⟨d, rest, hd⟩ := List.exists_cons_of_ne_nil hdrop
  rw [hd]
  rfl

theorem startsTyped_append_of_all (hne : lead ≠ []) (h : ∀ c ∈ lead, isTypeChar c = true)
    (s : Text) :
    startsTyped (lead ++ s) = decide ((s.dropWhile isTypeChar).head? = some ':') := by
  obtain ⟨c, rest, rfl⟩ := List.exists_cons_of_ne_nil hne
  unfold startsTyped
  rw [List.dropWhile_append_of_pos h]
  simp [h c List.mem_cons_self]

def isFormChar (c : Char) : Bool := c != '#' && isTypeChar c

theorem isFormChar_of_hexValue? {c : Char} (h : (Text.hexValue? c).isSome) :
    isFormChar c = true := by
  simp only [isFormChar, isTypeChar, Bool.and_eq_true, bne_iff_ne]
  refine ⟨?_, ?_, ?_⟩ <;> rintro rfl <;> exact absurd h (by decide)

theorem isFormChar_of_isUnreserved {c : Char} (h : isUnreserved c = true) :
    isFormChar c = true := by
  simp only [isFormChar, isTypeChar, Bool.and_eq_true, bne_iff_ne]
  refine ⟨?_, ?_, ?_⟩ <;> rintro rfl <;> exact absurd h (by decide)

theorem isFormChar_of_mem_encodePart {s : Text} {c : Char} (hc : c ∈ Form.encodePart s) :
    isFormChar c = true := by
  obtain ⟨d, -, hd⟩ := List.mem_flatMap.mp hc
  split at hd
  · rw [List.mem_singleton.mp hd]
    rfl
  · split at hd
    · next hkeep =>
      rw [List.mem_singleton.mp hd]
      exact isFormChar_of_isUnreserved hkeep
    · exact forall_mem_percentOctet (isFormChar · = true) rfl
        (fun n => isFormChar_of_hexValue? (isSome_hexValue?_upperHexDigit n)) _ c hd

theorem isFormChar_of_mem_encode {pairs : List (Text × Text)} {c : Char}
    (hc : c ∈ Form.encode pairs) : isFormChar c = true := by
  have hpair {pair : Text × Text} (hc : c ∈ Form.encodePair pair) : isFormChar c = true := by
    rcases List.mem_append.mp hc with hc | hc
    · exact isFormChar_of_mem_encodePart hc
    · rcases List.mem_cons.mp hc with rfl | hc
      · rfl
      · exact isFormChar_of_mem_encodePart hc
  unfold Form.encode at hc
  induction pairs with
  | nil => cases hc
  | cons pair rest ih =>
    cases rest with
    | nil =>
      rw [List.map_singleton, Text.glue_singleton] at hc
      exact hpair hc
    | cons other rest =>
      rw [List.map_cons, List.map_cons, Text.glue_cons_cons] at hc
      rcases List.mem_append.mp hc with hc | hc
      · exact hpair hc
      · rcases List.mem_cons.mp hc with rfl | hc
        · rfl
        · exact ih hc

theorem isFormChar_of_mem_query (options : Assoc Value) :
    ∀ c ∈ (Remote.query? options).elim [] ('?' :: ·), isFormChar c = true := by
  intro c hc
  unfold Remote.query? at hc
  split at hc
  · cases hc
  · rcases List.mem_cons.mp hc with rfl | hc
    · rfl
    · exact isFormChar_of_mem_encode hc

end Url

namespace Base

open Url

variable {base : Base}

theorem getLast?_path_of_parse {address : Text} (h : parse address = .ok base) :
    base.path.getLast? = some '/' := by
  unfold parse at h
  obtain ⟨u, -, h⟩ := Outcome.exists_ok_of_bind h
  cases h
  dsimp only
  split
  · assumption
  · exact List.getLast?_concat

theorem exists_path_of_parse {address : Text} (h : parse address = .ok base)
    (hscheme : base.scheme = []) (habsent : base.authority.isAbsent = true) :
    ∃ c rest, base.path = c :: rest ∧ c ≠ '?' := by
  unfold parse at h
  obtain ⟨u, hu, h⟩ := Outcome.exists_ok_of_bind h
  cases h
  have hraw : ∃ c rest, u.rawPath = c :: rest ∧ c ≠ '?' := by
    unfold rawPath
    cases hpath : u.path with
    | nil => exact ⟨'/', _, rfl, by decide⟩
    | cons c rest =>
      refine ⟨c, _, rfl, ?_⟩
      unfold clean at hu
      obtain ⟨-, -, hu⟩ := Outcome.exists_ok_of_bind hu
      obtain ⟨authority, -, hu⟩ := Outcome.exists_ok_of_bind hu
      obtain ⟨path, hclean, hu⟩ := Outcome.exists_ok_of_bind hu
      cases hu
      dsimp only at hscheme habsent hpath
      -- Without a scheme and a host the path is only encoded, which leaves no question mark.
      unfold cleanPath at hclean
      have hrelative : isAbsolute (Text.lowerAscii (Reference.parse address).scheme) authority =
          false := by simp [isAbsolute, hscheme, habsent]
      rw [hrelative, habsent] at hclean
      have henc : path = percentEncode isPathChar (Reference.parse address).path := by
        simp only [Bool.not_true, Bool.false_and, Bool.false_eq_true, if_false] at hclean
        split at hclean
        · cases hclean
        · split at hclean
          · cases hclean
          · exact (Except.ok.inj hclean).symm
      have hc : isPathChar c = true := by
        refine isPathChar_of_mem_percentEncode (s := (Reference.parse address).path) c ?_
        rw [← henc, hpath]
        exact List.mem_cons_self
      rintro rfl
      exact absurd hc (by decide)
  obtain ⟨c, rest, hraw, hc⟩ := hraw
  dsimp only
  rw [hraw]
  split
  · exact ⟨c, rest, rfl, hc⟩
  · exact ⟨c, _, rfl, hc⟩

/-- What the paths of all URLs begin with that go without a scheme and a host. -/
def stem (base : Base) : Text := percentEncode isPathChar (base.path.takeWhile (· ≠ '?'))

/-- The URL that all others on this server start like. -/
def bare (base : Base) : Url := ⟨base.scheme, base.authority, base.stem, none, base.fragment⟩

/-- The query of a request has no part in where it goes. -/
theorem url_query (base : Base) (path : Text) (query : Option Text) :
    base.url path query = (base.url path none).map fun u => { u with query := query } := by
  unfold Base.url
  cases Url.clean path with
  | error fault => rfl
  | ok target =>
    dsimp only [bind, Except.bind]
    split
    · rfl
    · cases cleanPath base.scheme base.authority
        ((base.path ++ target.rawPath.dropWhile (· = '/')).takeWhile (· ≠ '?')) with
      | error fault => rfl
      | ok joined => rfl

theorem scheme_of_clean_slash {s : Text} {u : Url} (h : clean ('/' :: s) = .ok u) :
    u.scheme = [] := by
  unfold clean at h
  obtain ⟨-, -, h⟩ := Outcome.exists_ok_of_bind h
  obtain ⟨authority, -, h⟩ := Outcome.exists_ok_of_bind h
  obtain ⟨path, -, h⟩ := Outcome.exists_ok_of_bind h
  cases h
  rfl

theorem exists_path_of_url {s : Text} {query : Option Text} {u : Url}
    (h : base.url ('/' :: s) query = .ok u) :
    ∃ path, u = ⟨base.scheme, base.authority, path, query, base.fragment⟩ ∧
      (isAbsolute base.scheme base.authority = false → ∃ rest, path = base.stem ++ rest ∧
        ('?' ∈ base.path → rest = [])) := by
  unfold Base.url at h
  obtain ⟨target, htarget, h⟩ := Outcome.exists_ok_of_bind h
  dsimp only at h
  rw [scheme_of_clean_slash htarget, List.isEmpty_nil, Bool.not_true, Bool.false_and,
    if_neg Bool.false_ne_true] at h
  obtain ⟨path, hpath, h⟩ := Outcome.exists_ok_of_bind h
  cases h
  refine ⟨path, rfl, fun hrelative => ?_⟩
  have hencoded : path = percentEncode isPathChar
      ((base.path ++ target.rawPath.dropWhile (· = '/')).takeWhile (· ≠ '?')) := by
    have habsent : base.authority.isAbsent = true := by
      simp only [isAbsolute, Bool.or_eq_false_iff, Bool.not_eq_false'] at hrelative
      exact hrelative.2
    simp only [cleanPath, habsent, hrelative, Bool.not_true, Bool.false_and, Bool.false_eq_true,
      if_false] at hpath
    split at hpath
    · cases hpath
    · split at hpath
      · cases hpath
      · exact (Except.ok.inj hpath).symm
  rw [List.takeWhile_append] at hencoded
  split at hencoded
  · next hall =>
    have hself : base.path.takeWhile (· ≠ '?') = base.path :=
      (List.takeWhile_prefix _).eq_of_length hall
    rw [percentEncode_append] at hencoded
    refine ⟨_, by rw [stem, hself, hencoded], fun hquery => ?_⟩
    exact absurd (List.takeWhile_eq_self_iff.mp hself _ hquery) (by decide)
  · exact ⟨[], by rw [stem, hencoded, List.append_nil], fun _ => rfl⟩

theorem not_mem_stem (base : Base) : '#' ∉ base.stem := fun h =>
  absurd (isPathChar_of_mem_percentEncode _ h) (by decide)

theorem stem_of_parse {address : Text} (h : parse address = .ok base)
    (hrelative : isAbsolute base.scheme base.authority = false) :
    base.stem ≠ [] ∧ ('?' ∈ base.path ∨ '/' ∈ base.stem) := by
  simp only [isAbsolute, Bool.or_eq_false_iff, Bool.not_eq_false', List.isEmpty_iff] at hrelative
  obtain ⟨c, rest, hpath, hc⟩ := exists_path_of_parse h hrelative.1 hrelative.2
  constructor
  · rw [stem, hpath, List.takeWhile_cons_of_pos (by simpa using hc)]
    by_cases hkeep : isPathChar c = true
    · rw [percentEncode_kept hkeep]
      exact List.cons_ne_nil _ _
    · obtain ⟨tail, htail⟩ := exists_percentEncode_cons hkeep (rest.takeWhile (· ≠ '?'))
      rw [htail]
      exact List.cons_ne_nil _ _
  · by_cases hquery : '?' ∈ base.path
    · exact .inl hquery
    · right
      have hself : base.path.takeWhile (· ≠ '?') = base.path :=
        List.takeWhile_eq_self_iff.mpr fun d hd => by
          simpa using fun heq : d = '?' => hquery (heq ▸ hd)
      obtain ⟨before, hslash⟩ := List.getLast?_eq_some_iff.mp (getLast?_path_of_parse h)
      rw [stem, hself, hslash, percentEncode_append, percentEncode_kept (by decide)]
      exact List.mem_append_right _ List.mem_cons_self

theorem text_of_relative {u : Url} (h : isAbsolute u.scheme u.authority = false) :
    u.text = u.path ++ (u.query.elim [] ('?' :: ·) ++ u.fragment.elim [] ('#' :: ·)) := by
  simp only [isAbsolute, Bool.or_eq_false_iff, Bool.not_eq_false'] at h
  unfold Url.text
  rw [h.1, h.2]
  cases u.query <;> cases u.fragment <;> simp

theorem isTyped_of_authority {u : Url} (hscheme : u.scheme = [])
    (habsent : u.authority.isAbsent = false) : u.isTyped = false := by
  have htext : ∃ rest, u.text = ['/'] ++ rest := by
    unfold Url.text
    rw [hscheme, habsent]
    exact ⟨_, rfl⟩
  obtain ⟨rest, htext⟩ := htext
  rw [isTyped_eq_startsTyped, htext, untagged_append (by decide)]
  rfl

theorem isTyped_of_rooted {address s : Text} (hparse : parse address = .ok base)
    {options : Assoc Value} {u : Url}
    (h : base.url ('/' :: s) (Remote.query? options) = .ok u) : u.isTyped = base.bare.isTyped := by
  obtain ⟨path, rfl, hpath⟩ := exists_path_of_url h
  by_cases hscheme : base.scheme = []
  · cases habsent : base.authority.isAbsent with
    | false => rw [isTyped_of_authority hscheme habsent, isTyped_of_authority hscheme habsent]
    | true =>
      have hrelative : isAbsolute base.scheme base.authority = false := by
        simp [isAbsolute, hscheme, habsent]
      obtain ⟨rest, rfl, hrest⟩ := hpath hrelative
      obtain ⟨hne, hslash⟩ := stem_of_parse hparse hrelative
      have hhash := base.not_mem_stem
      rw [isTyped_eq_startsTyped, isTyped_eq_startsTyped, text_of_relative hrelative,
        text_of_relative hrelative, bare]
      dsimp only
      rw [List.append_assoc, untagged_append hhash, untagged_append hhash]
      by_cases hmark : ∃ c ∈ base.stem, isTypeChar c = false
      · rw [startsTyped_append hmark, startsTyped_append hmark]
      · -- Only what follows the query can decide, and that is the fragment of the address.
        have hall : ∀ c ∈ base.stem, isTypeChar c = true := by simpa using hmark
        have hnil : rest = [] := hrest (hslash.resolve_right fun hmem =>
          absurd (hall _ hmem) (by decide))
        have hquery := isFormChar_of_mem_query options
        have hqhash : '#' ∉ (Remote.query? options).elim [] ('?' :: ·) := fun hmem =>
          absurd (hquery _ hmem) (by decide)
        have hqall : ∀ c ∈ (Remote.query? options).elim [] ('?' :: ·), isTypeChar c = true :=
          fun c hc => (Bool.and_eq_true_iff.mp (hquery c hc)).2
        rw [hnil, List.nil_append, untagged_append hqhash, startsTyped_append_of_all hne hall,
          startsTyped_append_of_all hne hall, List.dropWhile_append_of_pos hqall]
        rfl
  · have htyped := isScheme_of_parse hparse hscheme
    rw [Url.isTyped_of_isScheme htyped, Url.isTyped_of_isScheme htyped]

end Base

end RemoteShell
