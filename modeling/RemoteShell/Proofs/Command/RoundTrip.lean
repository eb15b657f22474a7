import RemoteShell.Command.Written
import RemoteShell.Proofs.Assoc
import RemoteShell.Proofs.Json.Characters
import RemoteShell.Proofs.Json.RoundTrip
import RemoteShell.Proofs.Line.Words

set_option autoImplicit false

namespace RemoteShell.Command

theorem decodeValue_renderValue {v : Value} (hv : v.Plain) (ht : ∀ s, v ≠ .text s) :
    decodeValue (renderValue v) = v := by
  cases v with
  | text s => exact absurd rfl (ht s)
  | _ => exact congrArg (Option.getD · _) (Json.literal?_write hv)

theorem isOption_eq_false {t : Text} (h : ∀ r, t ≠ '-' :: '-' :: r) : isOption t = false := by
  unfold isOption optionName?
  split
  next r => exact absurd rfl (h r)
  next => rfl

theorem renderValue_eq_write {v : Value} (ht : ∀ s, v ≠ .text s) :
    renderValue v = Json.write v := by
  cases v with
  | text s => exact absurd rfl (ht s)
  | _ => rfl

theorem isQuote_eq_false_of_opens {c : Char} (h : Json.Opens c) : Line.isQuote c = false := by
  obtain rfl | rfl | rfl | h | rfl | rfl | rfl := h <;> try rfl
  simp only [Line.isQuote, Bool.or_eq_false_iff, decide_eq_false_iff_not]
  constructor <;> rintro rfl <;> exact absurd h (by decide)

theorem isOption_write {v : Value} (hv : v.Plain) : isOption (Json.write v) = false :=
  isOption_eq_false (Json.write_ne_dashes hv)

theorem bare_write {v : Value} (hv : v.Plain) (hs : v.Spaceless) (ht : ∀ s, v ≠ .text s) :
    Line.Bare (Json.write v) := by
  obtain ⟨c, r, hw, hc⟩ := Json.write_opens hv ht
  exact ⟨Json.space_not_mem_write hv hs, c, by rw [hw]; rfl, isQuote_eq_false_of_opens hc⟩

theorem bare_option {key : Text} (h : ' ' ∉ key) : Line.Bare ('-' :: '-' :: key) :=
  ⟨by simp [h], '-', rfl, rfl⟩

theorem items_word {t : Text} (ts : List Text) (h : isOption t = false) :
    items (t :: ts) = .word t :: items ts := by
  have hn : optionName? t = none := by simpa [isOption] using h
  cases ts with
  | nil => simp [items, hn]
  | cons u ts => simp [items, hn]

theorem items_flag (key : Text) {ts : List Text} (h : ts.head?.all isOption = true) :
    items (('-' :: '-' :: key) :: ts) = .flag key :: items ts := by
  cases ts with
  | nil => rfl
  | cons u ts =>
    have hu : isOption u = true := by simpa using h
    rw [items, optionName?]
    simp [hu]

theorem items_option (key : Text) {u : Text} (ts : List Text) (h : isOption u = false) :
    items (('-' :: '-' :: key) :: u :: ts) = .option key u :: items ts := by
  rw [items, optionName?]
  simp [h]

def itemOf (e : Text × Value) : Item :=
  match e.2 with
  | .bool true => .flag e.1
  | v => .option e.1 (renderValue v)

theorem optionTokens_flag (key : Text) : optionTokens (key, .bool true) = ['-' :: '-' :: key] := rfl

theorem optionTokens_value (key : Text) {v : Value} (h : v ≠ .bool true) :
    optionTokens (key, v) = ['-' :: '-' :: key, renderValue v] := by
  unfold optionTokens
  split
  next h' => exact absurd h' h
  next => rfl

theorem itemOf_value (key : Text) {v : Value} (h : v ≠ .bool true) :
    itemOf (key, v) = .option key (renderValue v) := by
  unfold itemOf
  split
  next h' => exact absurd h' h
  next => rfl

theorem exists_optionTokens_cons (e : Text × Value) (m : Assoc Value) :
    ∃ ts, (e :: m).flatMap optionTokens = ('-' :: '-' :: e.1) :: ts := by
  obtain ⟨key, v⟩ := e
  by_cases h : v = .bool true
  · subst h
    exact ⟨_, rfl⟩
  · exact ⟨_, by rw [List.flatMap_cons, optionTokens_value key h]; rfl⟩

theorem optionTokens_head (m : Assoc Value) :
    (m.flatMap optionTokens).head?.all isOption = true := by
  cases m with
  | nil => rfl
  | cons e m =>
    obtain ⟨ts, h⟩ := exists_optionTokens_cons e m
    rw [h]
    rfl

theorem head?_glue_optionTokens (m : Assoc Value) (c : Char)
    (h : (Text.glue [' '] (m.flatMap optionTokens)).head? = some c) : c = '-' := by
  cases m with
  | nil => simp [Text.glue] at h
  | cons e m =>
    obtain ⟨ts, hts⟩ := exists_optionTokens_cons e m
    rw [hts, Text.head?_glue_cons (by simp)] at h
    simpa using h.symm

theorem items_optionTokens {m : Assoc Value}
    (h : ∀ e ∈ m, e.2 ≠ .bool true → isOption (renderValue e.2) = false) :
    items (m.flatMap optionTokens) = m.map itemOf := by
  induction m with
  | nil => rfl
  | cons e m ih =>
    obtain ⟨key, v⟩ := e
    have hm := ih fun e he => h e (List.mem_cons_of_mem _ he)
    rw [List.flatMap_cons, List.map_cons, ← hm]
    by_cases hv : v = .bool true
    · subst hv
      rw [optionTokens_flag, List.singleton_append, items_flag key (optionTokens_head m)]
      rfl
    · have ho := h (key, v) (by simp) hv
      rw [optionTokens_value key hv, itemOf_value key hv, List.cons_append, List.singleton_append,
        items_option key _ ho]

theorem entry_itemOf {e : Text × Value}
    (h : e.2 ≠ .bool true → decodeValue (renderValue e.2) = e.2) :
    Item.entry? (itemOf e) = some e := by
  obtain ⟨key, v⟩ := e
  by_cases hv : v = .bool true
  · subst hv; rfl
  · rw [itemOf_value key hv, Item.entry?, h hv]

theorem word?_itemOf (e : Text × Value) : (itemOf e).word? = none := by
  unfold itemOf
  split <;> rfl

theorem filterMap_word?_itemOf (m : Assoc Value) : (m.map itemOf).filterMap Item.word? = [] := by
  rw [List.filterMap_map, List.filterMap_eq_nil_iff]
  exact fun e _ => word?_itemOf e

theorem filterMap_entry_itemOf {m : Assoc Value}
    (h : ∀ e ∈ m, e.2 ≠ .bool true → decodeValue (renderValue e.2) = e.2) :
    (m.map itemOf).filterMap Item.entry? = m := by
  induction m with
  | nil => rfl
  | cons e m ih =>
    rw [List.map_cons, List.filterMap_cons_some (entry_itemOf (h e (by simp))),
      ih fun e he => h e (List.mem_cons_of_mem _ he)]

/-- A text that is one bare token, and no option. -/
structure IsWord (t : Text) : Prop where
  bare : Line.Bare t
  noOption : isOption t = false

/-- What keeps a name and options as they are on the way over a line. -/
structure Replayable (name : Text) (m : Assoc Value) : Prop where
  named : name = [] ∨ IsWord name ∧ ∀ c, name.head? = some c → Text.isBlank c = false
  distinct : (Assoc.keys m).Nodup
  keys : ∀ key ∈ Assoc.keys m, ' ' ∉ key
  plain : ∀ e ∈ m, e.2.Plain
  texts : ∀ e ∈ m, ∀ s, e.2 = .text s → IsWord s.toText ∧ decodeValue s.toText = .text s
  nested : ∀ e ∈ m, e.2.Spaceless
  ending : ∀ c, (write name m).getLast? = some c → Text.isBlank c = false

variable {name : Text} {m : Assoc Value}

theorem Replayable.isWord_renderValue (h : Replayable name m) {e : Text × Value} (he : e ∈ m) :
    IsWord (renderValue e.2) := by
  by_cases ht : ∃ s, e.2 = .text s
  · obtain ⟨s, hs⟩ := ht
    rw [hs]
    exact (h.texts e he s hs).1
  · have ht : ∀ s, e.2 ≠ .text s := fun s hs => ht ⟨s, hs⟩
    rw [renderValue_eq_write ht]
    exact ⟨bare_write (h.plain e he) (h.nested e he) ht, isOption_write (h.plain e he)⟩

theorem Replayable.decodeValue_renderValue (h : Replayable name m) {e : Text × Value}
    (he : e ∈ m) : decodeValue (renderValue e.2) = e.2 := by
  by_cases ht : ∃ s, e.2 = .text s
  · obtain ⟨s, hs⟩ := ht
    rw [hs]
    exact (h.texts e he s hs).2
  · exact Command.decodeValue_renderValue (h.plain e he) fun s hs => ht ⟨s, hs⟩

theorem Replayable.bare_optionTokens (h : Replayable name m) :
    ∀ t ∈ m.flatMap optionTokens, Line.Bare t := by
  intro t ht
  obtain ⟨⟨key, v⟩, he, ht⟩ := List.mem_flatMap.mp ht
  have hk : ' ' ∉ key := h.keys key (List.mem_map_of_mem he)
  by_cases hv : v = .bool true
  · subst hv
    obtain rfl := List.mem_singleton.mp ht
    exact bare_option hk
  · rw [optionTokens_value key hv] at ht
    simp only [List.mem_cons, List.not_mem_nil, or_false] at ht
    obtain rfl | rfl := ht
    · exact bare_option hk
    · exact (h.isWord_renderValue he).bare

theorem Replayable.items_eq (h : Replayable name m) :
    items (m.flatMap optionTokens) = m.map itemOf :=
  items_optionTokens fun _ he _ => (h.isWord_renderValue he).noOption

theorem Replayable.ofItems_words (h : Replayable name m) (words : List Text) :
    ofItems (words.map .word ++ m.map itemOf) = ⟨words.headD [], words.drop 1, m⟩ := by
  have hw : (words.map Item.word).filterMap Item.word? = words := by
    rw [List.filterMap_map]
    exact List.filterMap_some
  have he : (words.map Item.word).filterMap Item.entry? = [] := by
    rw [List.filterMap_map, List.filterMap_eq_nil_iff]
    exact fun t _ => rfl
  simp only [ofItems, List.filterMap_append, hw, he, filterMap_word?_itemOf, List.append_nil,
    List.nil_append, filterMap_entry_itemOf fun _ he _ => h.decodeValue_renderValue he,
    Assoc.ofPairs_of_nodup h.distinct]

theorem Replayable.tokens_write (h : Replayable name m) :
    Line.tokens (write name m) =
      .ok ((if name = [] then [] else [name]) ++ m.flatMap optionTokens) := by
  have hb := h.bare_optionTokens
  obtain hn | ⟨hw, hs⟩ := h.named
  -- An empty name leaves a space in front of the options, and no token.
  · subst hn
    refine Line.tokens_glue_nil hb ?_ h.ending
    intro c hc
    rw [head?_glue_optionTokens m c hc]
    rfl
  · have hn : name ≠ [] := by
      rintro rfl
      obtain ⟨c, hc, _⟩ := hw.bare.start
      simp at hc
    rw [if_neg hn]
    refine Line.tokens_glue ?_ ?_ h.ending
    · intro t ht
      obtain rfl | ht := List.mem_cons.mp ht
      · exact hw.bare
      · exact hb t ht
    · intro c hc
      rw [Text.head?_glue_cons hn] at hc
      exact hs c hc

/-- A replayable command is read back from its line: the name, no positionals, and the options with
their values in their order. -/
theorem ofLine_write (name : Text) (m : Assoc Value) (h : Replayable name m) :
    ofLine (write name m) = .ok ⟨name, [], m⟩ := by
  rw [ofLine, h.tokens_write, Outcome.map_ok, ofTokens]
  by_cases hn : name = []
  · rw [if_pos hn, List.nil_append, h.items_eq, ← List.nil_append (m.map itemOf)]
    exact congrArg Except.ok ((h.ofItems_words []).trans (by rw [hn]; rfl))
  · have hw : IsWord name := by
      obtain h | h := h.named
      · exact absurd h hn
      · exact h.1
    rw [if_neg hn, List.singleton_append, items_word _ hw.noOption, h.items_eq]
    exact congrArg Except.ok (h.ofItems_words [name])

def nestedOptions : Assoc Value :=
  [("force".toList, .bool true),
    ("a\"b".toList, .list [.text "it's".toList, .map [("k".toList, .bool true)], .int (-12)]),
    ([], .text "x\\y".toList)]

theorem replayable_nestedOptions : Replayable "set".toList nestedOptions where
  named := .inr ⟨⟨⟨by decide, 's', rfl, rfl⟩, rfl⟩, by rintro c ⟨⟩; rfl⟩
  distinct := by decide
  keys := by decide
  plain := by
    simp [nestedOptions, Value.Plain, Value.Everywhere, Value.EverywhereItems,
      Value.EverywhereFields, Value.isPlainHere, Assoc.keys]
    decide
  texts := by
    intro e he s hs
    simp only [nestedOptions, List.mem_cons, List.not_mem_nil, or_false] at he
    obtain rfl | rfl | rfl := he
    · cases hs
    · cases hs
    · obtain rfl := Value.text.inj hs
      exact ⟨⟨⟨by decide, 'x', rfl, rfl⟩, rfl⟩, rfl⟩
  nested := by
    simp [nestedOptions, Value.Spaceless, Value.Texts, Value.Everywhere, Value.EverywhereItems,
      Value.EverywhereFields, Value.hasTextsHere, Assoc.keys]
  ending := by rintro c ⟨⟩; rfl

theorem ofLine_write_nestedOptions :
    Replayable "set".toList nestedOptions ∧
      ofLine (write "set".toList nestedOptions) = .ok ⟨"set".toList, [], nestedOptions⟩ :=
  ⟨replayable_nestedOptions, ofLine_write _ _ replayable_nestedOptions⟩

end RemoteShell.Command
