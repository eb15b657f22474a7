import RemoteShell.Proofs.Command.Items
import RemoteShell.Proofs.Json.Unquoted
import RemoteShell.Proofs.Line.Span

set_option autoImplicit false

namespace RemoteShell.Command

def Item.operands : Item → List Text
  | .word t => [t]
  | .flag _ => []
  | .option _ t => [t]

theorem not_isOption_of_operand {ts : List Text} {i : Item} (hi : i ∈ items ts) {t : Text}
    (ht : t ∈ i.operands) : isOption t = false := by
  fun_induction items ts with
  | case1 => cases hi
  | case2 u h =>
    obtain rfl := List.mem_singleton.mp hi
    obtain rfl := List.mem_singleton.mp ht
    simp [isOption, h]
  | case3 u name h =>
    obtain rfl := List.mem_singleton.mp hi
    cases ht
  | case4 u v rest h ih =>
    rcases List.mem_cons.mp hi with rfl | hi
    · obtain rfl := List.mem_singleton.mp ht
      simp [isOption, h]
    · exact ih hi
  | case5 u v rest name h ho ih =>
    rcases List.mem_cons.mp hi with rfl | hi
    · cases ht
    · exact ih hi
  | case6 u v rest name h ho ih =>
    rcases List.mem_cons.mp hi with rfl | hi
    · obtain rfl := List.mem_singleton.mp ht
      exact Bool.eq_false_iff.mpr ho
    · exact ih hi

theorem mem_of_mem_tokens {ts : List Text} {i : Item} (hi : i ∈ items ts) {t : Text}
    (ht : t ∈ i.tokens) : t ∈ ts := by
  rw [← flatMap_tokens_items ts]
  exact List.mem_flatMap.mpr ⟨i, hi, ht⟩

theorem exists_of_mem_entriesOf {ts : List Text} {e : Text × Value} (he : e ∈ entriesOf ts) :
    dashed e.1 ∈ ts ∧
      (e.2 = .bool true ∨ ∃ t ∈ ts, isOption t = false ∧ e.2 = decodeValue t) := by
  obtain ⟨i, hi, he⟩ := List.mem_filterMap.mp he
  cases i with
  | word t => cases he
  | flag name =>
    cases he
    exact ⟨mem_of_mem_tokens hi List.mem_cons_self, .inl rfl⟩
  | option name t =>
    cases he
    refine ⟨mem_of_mem_tokens hi List.mem_cons_self, .inr ⟨t, ?_, ?_, rfl⟩⟩
    · exact mem_of_mem_tokens hi (List.mem_cons_of_mem _ List.mem_cons_self)
    · exact not_isOption_of_operand hi List.mem_cons_self

theorem name_ofTokens (ts : List Text) :
    (ofTokens ts).name = [] ∨ (ofTokens ts).name ∈ ts ∧ isOption (ofTokens ts).name = false := by
  change (wordsOf ts).headD [] = [] ∨
    (wordsOf ts).headD [] ∈ ts ∧ isOption ((wordsOf ts).headD []) = false
  cases hw : wordsOf ts with
  | nil => exact .inl rfl
  | cons t rest =>
    right
    have ht : t ∈ wordsOf ts := hw ▸ List.mem_cons_self
    obtain ⟨i, hi, ht⟩ := List.mem_filterMap.mp ht
    cases i with
    | word u =>
      cases ht
      exact ⟨mem_of_mem_tokens hi List.mem_cons_self, not_isOption_of_operand hi List.mem_cons_self⟩
    | flag | option => cases ht

def IsSolid (c : Char) : Prop := Line.isQuote c = false ∧ Text.isBlank c = false

def Solid (ts : List Text) : Prop := ∀ t ∈ ts, Line.Bare t ∧ ∀ c ∈ t, IsSolid c

theorem exists_solid {line : Text} (hquote : ∀ c ∈ line, Line.isQuote c = false)
    (hblank : ∀ c ∈ line, Text.isBlank c = true → c = ' ') :
    ∃ ts, Line.tokens line = .ok ts ∧ Solid ts := by
  have hchars : ∀ c ∈ line, Line.isQuote c = false ∧
      (Line.isQuote c = false ∧ (Text.isBlank c = true → c = ' ')) :=
    fun c hc => ⟨hquote c hc, hquote c hc, hblank c hc⟩
  obtain ⟨ts, hts, hall⟩ := Line.exists_tokens hchars
  refine ⟨ts, hts, fun t ht => ?_⟩
  obtain ⟨hbare, hchars⟩ := hall t ht
  refine ⟨hbare, fun c hc => ⟨(hchars c hc).1, Bool.eq_false_iff.mpr fun h => ?_⟩⟩
  exact hbare.noSpace ((hchars c hc).2 h ▸ hc)

/-- A value that an option has on such a line. -/
inductive Decoded : Value → Prop where
  | text {t : Text} (word : IsWord t) (solid : ∀ c ∈ t, IsSolid c)
      (raw : decodeValue t = .text t) : Decoded (.text t)
  | unquoted {v : Value} (h : v.Unquoted) : Decoded v

theorem decoded_decodeValue {t : Text} (hword : IsWord t) (hsolid : ∀ c ∈ t, IsSolid c) :
    Decoded (decodeValue t) := by
  have hquote : '"' ∉ t := fun h => absurd (hsolid _ h).1 (by decide)
  cases hv : Json.literal? t with
  | none =>
    have hraw : decodeValue t = .text t := by rw [decodeValue, hv]; rfl
    rw [hraw]
    exact .text hword hsolid hraw
  | some v =>
    rw [decodeValue, hv]
    exact .unquoted (Json.unquoted_literal? hquote hv)

theorem not_isBlank_of_isFrame {c : Char} (h : Json.IsFrame c) : Text.isBlank c = false := by
  rcases h with h | h
  · simp only [Text.isDigit, Bool.and_eq_true, decide_eq_true_eq, Char.le_def] at h
    have hge : '0'.toNat ≤ c.toNat := h.1
    have hle : c.toNat ≤ '9'.toNat := h.2
    change 48 ≤ c.toNat at hge
    change c.toNat ≤ 57 at hle
    simp [Text.isBlank, Text.isSpace, Text.isIn, Text.spaceRanges]
    omega
  · have hall : (Json.frame.all fun c => !Text.isBlank c) = true := by decide
    simpa using List.all_eq_true.mp hall c h

namespace Decoded

variable {v : Value}

theorem plain (h : Decoded v) (hreal : v.HasNoReal) : v.Plain := by
  cases h with
  | @text t => exact Points.isApart_ofText t
  | unquoted h => exact h.plain hreal

theorem spaceless (h : Decoded v) : v.Spaceless := by
  cases h with
  | text word => exact Points.char_mem_ofText.not.mpr word.bare.noSpace
  | unquoted h => exact h.texts _

theorem isWord_of_eq_text (h : Decoded v) {s : Points} (hs : v = .text s) :
    IsWord s.toText ∧ decodeValue s.toText = .text s := by
  cases h with
  | text word _ raw =>
    obtain rfl := Value.text.inj hs
    rw [Points.toText_ofText]
    exact ⟨word, raw⟩
  | unquoted h => exact absurd hs (h.ne_text s)

theorem forall_mem_renderValue (h : Decoded v) (hreal : v.HasNoReal) :
    renderValue v ≠ [] ∧ ∀ c ∈ renderValue v, Text.isBlank c = false := by
  cases h with
  | text word solid =>
    rw [renderValue, Points.toText_ofText]
    exact ⟨word.bare.ne_nil, fun c hc => (solid c hc).2⟩
  | unquoted h =>
    have hplain := h.plain hreal
    rw [renderValue_eq_write h.ne_text]
    refine ⟨List.length_pos_iff.mp (Json.write_length_pos hplain), ?_⟩
    exact Json.forall_mem_write (fun c => not_isBlank_of_isFrame) v hplain (h.texts _)

end Decoded

namespace Solid

variable {ts : List Text}

theorem of_mem_options (h : Solid ts) {e : Text × Value} (he : e ∈ (ofTokens ts).options) :
    (∀ c ∈ e.1, IsSolid c) ∧ ' ' ∉ e.1 ∧ Decoded e.2 := by
  obtain ⟨hkey, hvalue⟩ := exists_of_mem_entriesOf (Assoc.mem_ofPairs he)
  obtain ⟨hbare, hsolid⟩ := h _ hkey
  have hin {c : Char} (hc : c ∈ e.1) : c ∈ dashed e.1 :=
    List.mem_cons_of_mem _ (List.mem_cons_of_mem _ hc)
  refine ⟨fun c hc => hsolid c (hin hc), fun hc => hbare.noSpace (hin hc), ?_⟩
  rcases hvalue with hflag | ⟨t, ht, ho, hv⟩
  · rw [hflag]
    exact .unquoted trivial
  · rw [hv]
    exact decoded_decodeValue ⟨(h t ht).1, ho⟩ (h t ht).2

theorem of_mem_optionTokens (h : Solid ts) {e : Text × Value} (he : e ∈ (ofTokens ts).options)
    (hreal : e.2.HasNoReal) {t : Text} (ht : t ∈ optionTokens e) :
    t ≠ [] ∧ ∀ c ∈ t, Text.isBlank c = false := by
  obtain ⟨key, v⟩ := e
  obtain ⟨hkey, -, hvalue⟩ := h.of_mem_options he
  have hdashed : dashed key ≠ [] ∧ ∀ c ∈ dashed key, Text.isBlank c = false := by
    refine ⟨List.cons_ne_nil _ _, ?_⟩
    simp only [dashed, List.forall_mem_cons]
    exact ⟨rfl, rfl, fun c hc => (hkey c hc).2⟩
  by_cases hv : v = .bool true
  · subst hv
    obtain rfl := List.mem_singleton.mp ht
    exact hdashed
  · rw [optionTokens_value key hv] at ht
    simp only [List.mem_cons, List.not_mem_nil, or_false] at ht
    rcases ht with rfl | rfl
    · exact hdashed
    · exact hvalue.forall_mem_renderValue hreal

theorem replayable (h : Solid ts) (hreal : ∀ e ∈ (ofTokens ts).options, e.2.HasNoReal) :
    Replayable (ofTokens ts).name (ofTokens ts).options where
  named := (name_ofTokens ts).imp_right fun ⟨ht, ho⟩ =>
    ⟨⟨(h _ ht).1, ho⟩, fun c hc => ((h _ ht).2 c (List.mem_of_head? hc)).2⟩
  distinct := Assoc.nodup_keys_ofPairs _
  keys key hkey := by
    obtain ⟨e, he, rfl⟩ := List.mem_map.mp hkey
    exact (h.of_mem_options he).2.1
  plain e he := (h.of_mem_options he).2.2.plain (hreal e he)
  texts e he s hs := (h.of_mem_options he).2.2.isWord_of_eq_text hs
  nested e he := (h.of_mem_options he).2.2.spaceless
  ending c hc := by
    -- The last character is one of the last option token, or of the name if there are no options.
    rw [write] at hc
    rcases List.eq_nil_or_concat ((ofTokens ts).options.flatMap optionTokens) with
      hnil | ⟨us, t, ht⟩
    · rw [hnil, Text.glue_singleton] at hc
      rcases name_ofTokens ts with hn | ⟨hn, -⟩
      · rw [hn] at hc
        cases hc
      · exact ((h _ hn).2 c (List.mem_of_getLast? hc)).2
    · have hmem : t ∈ (ofTokens ts).options.flatMap optionTokens := by simp [ht]
      obtain ⟨e, he, hmem⟩ := List.mem_flatMap.mp hmem
      obtain ⟨hne, hchars⟩ := h.of_mem_optionTokens he (hreal e he) hmem
      rw [ht, List.concat_eq_append, ← List.cons_append, Text.getLast?_glue_concat ' ' _ hne] at hc
      exact hchars c (List.mem_of_getLast? hc)

end Solid

theorem Replayable.ofTokens_eq {name : Text} {m : Assoc Value} (h : Replayable name m) :
    ofTokens ((if name = [] then [] else [name]) ++ m.flatMap optionTokens) = ⟨name, [], m⟩ := by
  rw [ofTokens]
  rcases h.named with rfl | ⟨hword, -⟩
  · rw [if_pos rfl, List.nil_append, h.items_eq]
    exact h.ofItems_words []
  · rw [if_neg hword.bare.ne_nil, List.singleton_append, items_word _ hword.noOption, h.items_eq]
    exact h.ofItems_words [name]

/-- A line without quotes and without blanks but spaces always has a command. Written back without
its positionals, the command is read as it is, unless a real number is among its values, and is
written in the same way. -/
theorem exists_replayed {line : Text} (hquote : ∀ c ∈ line, Line.isQuote c = false)
    (hblank : ∀ c ∈ line, Text.isBlank c = true → c = ' ') :
    ∃ c, ofLine line = .ok c ∧ ((∀ e ∈ c.options, e.2.HasNoReal) →
      ∃ again, ofLine (write c.name c.options) = .ok again ∧ again = ⟨c.name, [], c.options⟩ ∧
        write again.name again.options = write c.name c.options) := by
  obtain ⟨ts, hts, hsolid⟩ := exists_solid hquote hblank
  refine ⟨ofTokens ts, by rw [ofLine, hts, Outcome.map_ok], fun hreal => ?_⟩
  have h := hsolid.replayable hreal
  exact ⟨_, by rw [ofLine, h.tokens_write, Outcome.map_ok, h.ofTokens_eq], rfl, rfl⟩

deriving instance DecidableEq for Command

/-- One option has two values, of which the last counts. The list is written without blanks, and
what is no strict JSON stays as it is. -/
def repeatedLine : Text := "run --a 1 x --b true --a [[-0,\x7b\x7d],null] y --c NaN --".toList

def repeatedOptions : Assoc Value :=
  [("a".toList, .list [.list [.int 0, .map []], .null]), ("b".toList, .bool true),
    ("c".toList, .text "NaN".toList), ([], .bool true)]

theorem exists_replayed_repeated :
    ofLine repeatedLine = .ok ⟨"run".toList, ["x".toList, "y".toList], repeatedOptions⟩ ∧
      ofLine "run --a [[0,\x7b\x7d],null] --b --c NaN --".toList =
        .ok ⟨"run".toList, [], repeatedOptions⟩ := by
  have hquote : (repeatedLine.all fun c => !Line.isQuote c) = true := by decide
  have hblank : (repeatedLine.all fun c => !Text.isBlank c || c == ' ') = true := by decide
  rw [List.all_eq_true] at hquote hblank
  obtain ⟨c, hc, hreplayed⟩ := exists_replayed (fun c hc => by simpa using hquote c hc)
    (fun c hc hspace => by simpa [hspace] using hblank c hc)
  have hline : ofLine repeatedLine =
      .ok ⟨"run".toList, ["x".toList, "y".toList], repeatedOptions⟩ := by decide +kernel
  have hwrite : write "run".toList repeatedOptions =
      "run --a [[0,\x7b\x7d],null] --b --c NaN --".toList := by decide +kernel
  rw [hline] at hc
  cases hc
  obtain ⟨again, hagain, rfl, -⟩ := hreplayed (by
    simp [repeatedOptions, Value.HasNoReal, Value.Everywhere, Value.EverywhereItems,
      Value.EverywhereFields])
  exact ⟨hline, hwrite ▸ hagain⟩

end RemoteShell.Command
