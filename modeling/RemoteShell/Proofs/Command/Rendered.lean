import RemoteShell.Proofs.Command.RoundTrip

set_option autoImplicit false

namespace RemoteShell.Command

/-- A value that is no text is read back from the text that stands for it. That text is a word of
printable ASCII, neither quoted nor an option, with a space in it only if a text or a key in the
value has one. -/
theorem renderValue_undone {v : Value} (hv : v.Plain) (ht : ∀ s, v ≠ .text s) :
    decodeValue (renderValue v) = v ∧
      (∀ c ∈ renderValue v, 0x20 ≤ c.toNat ∧ c.toNat < 0x7F) ∧
      (∀ c, (renderValue v).head? = some c → Line.isQuote c = false) ∧
      isOption (renderValue v) = false ∧
      (' ' ∈ renderValue v ↔ ∃ t ∈ v.innerTexts, .char ' ' ∈ t) := by
  refine ⟨decodeValue_renderValue hv ht, ?_⟩
  rw [renderValue_eq_write ht]
  refine ⟨Json.isPrintable_of_mem_write hv, fun c hc => ?_, isOption_write hv,
    Json.space_mem_write_iff hv⟩
  obtain ⟨d, rest, hwrite, hopens⟩ := Json.write_opens hv ht
  rw [hwrite, List.head?_cons, Option.some.injEq] at hc
  exact hc ▸ isQuote_eq_false_of_opens hopens

def nestedValue : Value :=
  .map [("a b".toList, .list [.list [], .map [], .int (-120), .null]),
    ("\"\\\n".toList, .map [([], .text "\x7fé😀".toList), ("c".toList, .bool true)])]

theorem renderValue_undone_nested : nestedValue.Plain ∧
    decodeValue (renderValue nestedValue) = nestedValue ∧ ' ' ∈ renderValue nestedValue := by
  have hplain : nestedValue.Plain := by
    simp [nestedValue, Value.Plain, Value.Everywhere, Value.EverywhereItems,
      Value.EverywhereFields, Value.isPlainHere, Assoc.keys]
    decide
  obtain ⟨hundone, -, -, -, hspace⟩ := renderValue_undone hplain (by simp [nestedValue])
  exact ⟨hplain, hundone, hspace.mpr ⟨"a b".toList, by decide, by decide⟩⟩

end RemoteShell.Command
