import RemoteShell.Proofs.Command.Items
import RemoteShell.Proofs.Line.Span

/-! Options that are texts and flags survive a line only if they are replayable. The tokens of the
line have to pay for the name and for every option, and the line has no more to give than what these
were written with; so it was cut where it was glued, and each value was read from itself. -/

set_option autoImplicit false

namespace RemoteShell.Command

def IsTextOrTrue (v : Value) : Prop := v = .bool true ∨ ∃ s, v = .text s

def reread : Value → Value
  | .text s => decodeValue s.toText
  | v => v

section Written

variable {m : Assoc Value}

theorem optionTokens_text (key : Text) (s : Points) :
    optionTokens (key, .text s) = [dashed key, s.toText] := rfl

theorem cost_optionTokens (a : Text → Nat) (h : ∀ e ∈ m, IsTextOrTrue e.2) :
    cost a (m.flatMap optionTokens) = Assoc.weigh (optionWeight a) m := by
  induction m with
  | nil => rfl
  | cons e m ih =>
    obtain ⟨key, v⟩ := e
    rw [List.flatMap_cons, cost_append, Assoc.weigh_cons,
      ih fun e he => h e (List.mem_cons_of_mem _ he)]
    obtain rfl | ⟨s, rfl⟩ : IsTextOrTrue v := h _ List.mem_cons_self
    · rfl
    · rw [optionTokens_text, cost_cons, cost_cons]
      rfl

theorem eq_nil_of_flatMap_optionTokens (h : m.flatMap optionTokens = []) : m = [] := by
  cases m with
  | nil => rfl
  | cons e m =>
    obtain ⟨ts, hts⟩ := exists_optionTokens_cons e m
    rw [hts] at h
    cases h

theorem mem_optionTokens {key : Text} {s : Points} (h : (key, .text s) ∈ m) :
    dashed key ∈ m.flatMap optionTokens ∧ s.toText ∈ m.flatMap optionTokens := by
  simp only [List.mem_flatMap]
  exact ⟨⟨_, h, List.mem_cons_self⟩, ⟨_, h, List.mem_cons_of_mem _ List.mem_cons_self⟩⟩

theorem dashed_mem_optionTokens {e : Text × Value} (he : e ∈ m) (h : IsTextOrTrue e.2) :
    dashed e.1 ∈ m.flatMap optionTokens := by
  obtain ⟨key, v⟩ := e
  obtain rfl | ⟨s, rfl⟩ : IsTextOrTrue v := h
  · exact List.mem_flatMap.mpr ⟨_, he, List.mem_cons_self⟩
  · exact (mem_optionTokens he).1

end Written

/-- Tokens that are read as a name, if it is there at all, and as options that are the same as some
texts and flags, order aside. -/
structure Carries (ts : List Text) (name : Text) (m : Assoc Value) : Prop where
  distinct : (Assoc.keys m).Nodup
  simple : ∀ e ∈ m, IsTextOrTrue e.2
  words : wordsOf ts = [] ∧ name = [] ∨ wordsOf ts = [name]
  same : Value.same (.map (Value.Fields.ofAssoc (Assoc.ofPairs (entriesOf ts)))) (.map m) = true

namespace Carries

variable {ts : List Text} {name : Text} {m : Assoc Value}

/-- What was written for the words that are read and for the options. -/
def written (ts : List Text) (m : Assoc Value) : List Text := wordsOf ts ++ m.flatMap optionTokens

theorem cost_written (h : Carries ts name m) (a : Text → Nat) :
    cost a (written ts m) = cost a (wordsOf ts) + Assoc.weigh (optionWeight a) m := by
  rw [written, cost_append, cost_optionTokens a h.simple]

theorem cost_written_le (h : Carries ts name m) {a : Text → Nat}
    (ha : ∀ t s, decodeValue t = .text s → a s.toText ≤ a t) :
    cost a (written ts m) ≤ cost a ts := by
  have hweight (key : Text) (v w : Value) (hsame : v.same w = true) :
      optionWeight a (key, v) = optionWeight a (key, w) :=
    congrArg (a (dashed key) + ·) (Value.weight_eq_of_same a hsame)
  calc
    _ = cost a (wordsOf ts) + Assoc.weigh (optionWeight a) m := h.cost_written a
    _ ≤ cost a (wordsOf ts) + Assoc.weigh (optionWeight a) (entriesOf ts) :=
      Nat.add_le_add_left (Value.weigh_le_of_same hweight h.distinct h.same) _
    _ ≤ cost a ts := weigh_entriesOf_le ha ts

theorem length_written_le (h : Carries ts name m) : (written ts m).length ≤ ts.length := by
  have hle := h.cost_written_le (a := fun _ => 1) fun _ _ _ => Nat.le_refl 1
  rwa [cost_one, cost_one] at hle

theorem length_flatten_written_le (h : Carries ts name m) :
    (written ts m).flatten.length ≤ ts.flatten.length := by
  have hle := h.cost_written_le (a := List.length) fun _ _ => length_of_decodeValue
  rwa [cost_length, cost_length] at hle

theorem span_written_le (h : Carries ts name m) : Text.span (written ts m) ≤ Text.span ts := by
  have hlength := h.length_written_le
  have hflatten := h.length_flatten_written_le
  rw [Text.span_eq, Text.span_eq]
  omega

theorem write_eq (h : Carries ts name m) (hne : written ts m ≠ []) :
    write name m = Text.glue [' '] (written ts m) ∨
      write name m = ' ' :: Text.glue [' '] (written ts m) := by
  rcases h.words with ⟨hwords, rfl⟩ | hwords
  -- The name that is not there is still set apart from the options.
  · rw [written, hwords, List.nil_append] at hne ⊢
    exact .inr (Text.glue_cons_of_ne_nil ' ' [] hne)
  · rw [written, hwords]
    exact .inl rfl

theorem strip_write (h : Carries ts name m) (hne : written ts m ≠ []) :
    Text.strip (write name m) = Text.strip (Text.glue [' '] (written ts m)) := by
  rcases h.write_eq hne with heq | heq
  · rw [heq]
  · rw [heq, Text.strip_cons_of_blank _ Text.isBlank_space]

/-- The line had nothing to spare: its tokens are bare, and they are what was written. -/
theorem eq_written (h : Carries ts name m) (hts : Line.tokens (write name m) = .ok ts)
    (hne : written ts m ≠ []) :
    ts = written ts m ∧ Line.IsGlued ts (Text.strip (write name m)) := by
  have hstrip := h.strip_write hne
  have hlength := Text.length_glue ' ' hne
  have hle := Text.length_strip_le (Text.glue [' '] (written ts m))
  have hspan := h.span_written_le
  rcases Line.span_tokens hts with hshort | hglued
  -- A quote, an escape or a second blank between two tokens would leave too little for the options.
  · rw [hstrip] at hshort
    omega
  · have htotal := hglued.length
    have hself : Text.strip (Text.glue [' '] (written ts m)) = Text.glue [' '] (written ts m) := by
      refine Text.strip_eq_self_of_length ?_
      rw [← hstrip]
      omega
    have hcount : ts.length ≤ (written ts m).length := by
      have hflatten := h.length_flatten_written_le
      rw [hstrip, hself] at htotal
      rw [Text.span_eq] at hlength htotal
      omega
    have hglue := (hstrip.trans hself).symm.trans hglued.glue
    have heq := Text.eq_of_glue_eq hglue hglued.ne_nil (fun t ht => (hglued.bare t ht).noSpace)
      hcount
    exact ⟨heq.symm, hglued⟩

theorem length_entriesOf (h : Carries ts name m) (heq : ts = written ts m) :
    (entriesOf ts).length = m.length := by
  have htokens := weigh_entriesOf_le (a := fun _ => 1) (fun _ _ _ => Nat.le_refl 1) ts
  have hwritten := h.cost_written fun _ => 1
  have hentries : Assoc.weigh (fun _ => 1) m ≤ Assoc.weigh (fun _ => 1) (entriesOf ts) :=
    Value.weigh_le_of_same (fun _ _ _ _ => rfl) h.distinct h.same
  have htexts := Value.weigh_le_of_same (f := fun e => e.2.weight fun _ => 1)
    (fun _ _ _ hsame => Value.weight_eq_of_same _ hsame) h.distinct h.same
  rw [← heq] at hwritten
  unfold optionWeight at htokens hwritten
  rw [Assoc.weigh_add, Assoc.weigh_one] at htokens hwritten
  rw [Assoc.weigh_one, Assoc.weigh_one] at hentries
  omega

theorem noOption (h : Carries ts name m) (heq : ts = written ts m) :
    (∀ t ∈ wordsOf ts, isOption t = false) ∧
      ∀ key s, (key, .text s) ∈ m → isOption s.toText = false := by
  -- The names of the entries use up all the tokens that look like options.
  have hcost := h.cost_written fun t => (isOption t).toNat
  rw [← heq, cost_isOption, h.length_entriesOf heq] at hcost
  unfold optionWeight at hcost
  have hone : Assoc.weigh (fun e => (isOption (dashed e.1)).toNat) m = m.length :=
    Assoc.weigh_one m
  rw [Assoc.weigh_add, hone] at hcost
  refine ⟨fun t ht => ?_, fun key s he => ?_⟩
  · have hzero := eq_zero_of_cost (a := fun t => (isOption t).toNat) (by omega) ht
    exact Bool.toNat_eq_zero.mp hzero
  · have hzero := Assoc.eq_zero_of_weigh
      (f := fun e : Text × Value => e.2.weight fun t => (isOption t).toNat) (by omega) he
    exact Bool.toNat_eq_zero.mp hzero

theorem entriesOf_eq (h : Carries ts name m) (heq : ts = written ts m) :
    entriesOf ts = m.map fun e => (e.1, reread e.2) := by
  obtain ⟨hword, hvalue⟩ := h.noOption heq
  have hitems : items (m.flatMap optionTokens) = m.map itemOf := by
    refine items_optionTokens fun e he hne => ?_
    obtain ⟨key, v⟩ := e
    obtain ⟨s, rfl⟩ := (h.simple _ he).resolve_left hne
    exact hvalue key s he
  have hentries : (m.map itemOf).filterMap Item.entry? = m.map fun e => (e.1, reread e.2) := by
    rw [List.filterMap_map, ← List.filterMap_eq_map]
    refine List.filterMap_congr fun e he => ?_
    obtain ⟨key, v⟩ := e
    obtain rfl | ⟨s, rfl⟩ : IsTextOrTrue v := h.simple _ he
    · rfl
    · rfl
  rw [← hentries, ← hitems, entriesOf]
  conv_lhs => rw [heq, written]
  rcases h.words with ⟨hwords, -⟩ | hwords
  · rw [hwords, List.nil_append]
  · rw [hwords, List.singleton_append,
      items_word _ (hword name (hwords ▸ List.mem_singleton_self name))]
    rfl

theorem decodeValue_eq (h : Carries ts name m) (heq : ts = written ts m) {key : Text} {s : Points}
    (he : (key, .text s) ∈ m) : decodeValue s.toText = .text s := by
  have hkeys : Assoc.keys (entriesOf ts) = Assoc.keys m := by
    rw [h.entriesOf_eq heq, Assoc.keys, Assoc.keys, List.map_map]
    rfl
  have hsame := h.same
  rw [Assoc.ofPairs_of_nodup (hkeys ▸ h.distinct)] at hsame
  have hmem : (key, decodeValue s.toText) ∈ entriesOf ts := by
    rw [h.entriesOf_eq heq]
    exact List.mem_map.mpr ⟨_, he, rfl⟩
  obtain ⟨w, hw, hs⟩ := (Value.exists_of_same hsame).2 _ hmem
  rw [Assoc.get?_of_mem h.distinct he] at hw
  cases hw
  exact Value.same_text hs

theorem replayable (h : Carries ts name m) (hts : Line.tokens (write name m) = .ok ts)
    (hne : written ts m ≠ []) : Replayable name m := by
  obtain ⟨heq, hglued⟩ := h.eq_written hts hne
  have hbare {t : Text} (ht : t ∈ written ts m) : Line.Bare t := hglued.bare t (heq ▸ ht)
  have htext {key : Text} {s : Points} (he : (key, .text s) ∈ m) : IsWord s.toText :=
    ⟨hbare (List.mem_append_right _ (mem_optionTokens he).2), (h.noOption heq).2 key s he⟩
  have hstrip : Text.strip (write name m) = Text.glue [' '] (written ts m) := by
    rw [← heq]
    exact hglued.glue
  refine ⟨?_, h.distinct, ?_, ?_, ?_, ?_, ?_⟩
  · rcases h.words with ⟨-, hname⟩ | hwords
    · exact .inl hname
    · have hname : name ∈ wordsOf ts := hwords ▸ List.mem_singleton_self name
      have hword : IsWord name :=
        ⟨hbare (List.mem_append_left _ hname), (h.noOption heq).1 name hname⟩
      refine .inr ⟨hword, fun c hc => Text.not_blank_of_head?_strip (s := write name m) ?_⟩
      rw [hstrip, written, hwords, List.singleton_append, Text.head?_glue_cons hword.bare.ne_nil,
        hc]
  · intro key hkey
    obtain ⟨e, he, rfl⟩ := List.mem_map.mp hkey
    have hdashed := hbare (List.mem_append_right _ (dashed_mem_optionTokens he (h.simple e he)))
    exact fun hspace => hdashed.noSpace (List.mem_cons_of_mem _ (List.mem_cons_of_mem _ hspace))
  · rintro ⟨key, v⟩ he
    obtain rfl | ⟨s, rfl⟩ : IsTextOrTrue v := h.simple _ he
    · trivial
    · have hs := eq_ofText_of_decodeValue (h.decodeValue_eq heq he)
      exact hs ▸ Points.isApart_ofText s.toText
  · rintro ⟨key, _⟩ he s rfl
    exact ⟨htext he, h.decodeValue_eq heq he⟩
  · rintro ⟨key, v⟩ he
    obtain rfl | ⟨s, rfl⟩ : IsTextOrTrue v := h.simple _ he
    · trivial
    · exact fun hspace => (htext he).bare.noSpace (List.mem_map_of_mem hspace)
  · intro c hc
    apply Text.not_blank_of_getLast?_strip (s := write name m)
    have hnil := hglued.text_ne_nil
    rw [hstrip] at hnil ⊢
    rcases h.write_eq hne with hwrite | hwrite
    · rw [← hwrite, hc]
    · rwa [hwrite, List.getLast?_cons_of_ne_nil hnil] at hc

end Carries

theorem replayable_of_ofLine {name : Text} {m : Assoc Value} {c : Command}
    (hdistinct : (Assoc.keys m).Nodup) (hsimple : ∀ e ∈ m, IsTextOrTrue e.2)
    (hline : ofLine (write name m) = .ok c) (hsame : c.same name m = true) :
    Replayable name m := by
  obtain ⟨ts, hts, rfl⟩ := Outcome.exists_ok_of_map hline
  obtain ⟨hwords, hoptions⟩ := same_ofTokens hsame
  have h : Carries ts name m := ⟨hdistinct, hsimple, hwords, hoptions⟩
  by_cases hne : Carries.written ts m = []
  -- Nothing was written at all.
  · obtain ⟨hnone, hopts⟩ := List.append_eq_nil_iff.mp hne
    obtain rfl := eq_nil_of_flatMap_optionTokens hopts
    obtain ⟨-, rfl⟩ := hwords.resolve_right (by rw [hnone]; exact fun h => nomatch h)
    exact ⟨.inl rfl, hdistinct, fun _ h => (nomatch h), fun _ h => (nomatch h),
      fun _ h => (nomatch h), fun _ h => (nomatch h), fun _ h => (nomatch h)⟩
  · exact h.replayable hts hne

def flaggedOptions : Assoc Value :=
  [("f".toList, .bool true), ("k".toList, .text "a\"b".toList), ([], .text "-7x".toList)]

theorem replayable_flaggedOptions : ∃ c, ofLine (write "set".toList flaggedOptions) = .ok c ∧
    c.same "set".toList flaggedOptions = true ∧ Replayable "set".toList flaggedOptions := by
  have hsimple : ∀ e ∈ flaggedOptions, IsTextOrTrue e.2 := by
    intro e he
    simp only [flaggedOptions, List.mem_cons, List.not_mem_nil, or_false] at he
    obtain rfl | rfl | rfl := he
    · exact .inl rfl
    · exact .inr ⟨_, rfl⟩
    · exact .inr ⟨_, rfl⟩
  refine ⟨_, rfl, ?_, replayable_of_ofLine (by decide) hsimple rfl ?_⟩
  · rfl
  · rfl

end RemoteShell.Command
