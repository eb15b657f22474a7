import RemoteShell.Json.Stored
import RemoteShell.Proofs.Json.RoundTrip
import RemoteShell.Proofs.Text.Utf8

set_option autoImplicit false

namespace RemoteShell.Json

variable {content : Octets} {v : Value} {fields : Value.Fields}

def IsDocument (content : Octets) (v : Value) : Prop :=
  ∃ text, Utf8.strict content = .ok text ∧ read text = .ok v

/-- Octets that are UTF-8, and in which reading does not stop at an integer that is too long. -/
def IsReadable (content : Octets) : Prop :=
  ∃ text, Utf8.strict content = .ok text ∧ ∀ digits, read text ≠ .error (.longInteger digits)

theorem IsDocument.unique {w : Value} (hv : IsDocument content v) (hw : IsDocument content w) :
    v = w := by
  obtain ⟨s, hs, hv⟩ := hv
  obtain ⟨t, ht, hw⟩ := hw
  rw [hs] at ht
  cases ht
  rw [hv] at hw
  exact Except.ok.inj hw

theorem IsDocument.isReadable (h : IsDocument content v) : IsReadable content := by
  obtain ⟨text, htext, hread⟩ := h
  refine ⟨text, htext, fun digits hlong => ?_⟩
  rw [hread] at hlong
  cases hlong

theorem object?_eq_some_iff :
    object? content = .ok (some fields) ↔ IsDocument content (.map fields) := by
  unfold object? IsDocument
  constructor
  · intro h
    split at h
    · cases h
    · next text htext =>
      refine ⟨text, htext, ?_⟩
      split at h
      · next hread =>
        cases h
        exact hread
      all_goals cases h
  · rintro ⟨text, htext, hread⟩
    simp only [htext, hread]

theorem exists_object?_iff : (∃ found, object? content = .ok found) ↔ IsReadable content := by
  unfold object? IsReadable
  constructor
  · rintro ⟨found, h⟩
    split at h
    · cases h
    · next text htext =>
      refine ⟨text, htext, fun digits hlong => ?_⟩
      simp only [hlong] at h
      cases h
  · rintro ⟨text, htext, hlong⟩
    simp only [htext]
    split
    · exact ⟨_, rfl⟩
    · exact ⟨_, rfl⟩
    · exact ⟨_, rfl⟩
    · next digits hread => exact absurd hread (hlong digits)

theorem object?_eq_none_iff :
    object? content = .ok none ↔
      IsReadable content ∧ ∀ fields, ¬IsDocument content (.map fields) := by
  constructor
  · intro h
    refine ⟨exists_object?_iff.mp ⟨_, h⟩, fun fields hfields => ?_⟩
    rw [object?_eq_some_iff.mpr hfields] at h
    cases h
  · rintro ⟨hreadable, hnone⟩
    obtain ⟨found, h⟩ := exists_object?_iff.mpr hreadable
    cases found with
    | none => exact h
    | some fields => exact absurd (object?_eq_some_iff.mp h) (hnone fields)

def ones (count : Nat) : Text := List.replicate count '1'

theorem readNumber_ones {n : Nat} (h : Numeral.mostDigits < n + 1) :
    readNumber (ones (n + 1)) = .error (.longInteger (n + 1)) := by
  have hdigits : ∀ c ∈ ones (n + 1), Text.isDigit c = true := by
    intro c hc
    rw [List.eq_of_mem_replicate hc]
    rfl
  obtain ⟨htake, hdrop⟩ := takeWhile_digits hdigits atEnd_nil
  rw [List.append_nil] at htake hdrop
  have hminus : takeMinus (ones (n + 1)) = (false, ones (n + 1)) := rfl
  have hwhole : readWhole (ones (n + 1)) = some (ones (n + 1), []) := by
    change some ((ones (n + 1)).takeWhile Text.isDigit, (ones (n + 1)).dropWhile Text.isDigit) = _
    rw [htake, hdrop]
  have hlength : (ones (n + 1)).length = n + 1 := List.length_replicate
  unfold readNumber
  simp only [hminus, hwhole, readFraction_atEnd atEnd_nil, readExponent_atEnd atEnd_nil,
    Option.isNone_none, Bool.and_self, if_true, hlength, if_pos h]

theorem read_ones {n : Nat} (h : Numeral.mostDigits < n + 1) :
    read (ones (n + 1)) = .error (.longInteger (n + 1)) := by
  have hbare : read (ones (n + 1)) = readBare (ones (n + 1)) := rfl
  have hskip : skipSpace (ones (n + 1)) = ones (n + 1) := rfl
  have hvalue (fuel : Nat) :
      readValue true (fuel + 1) (ones (n + 1)) = readNumber (ones (n + 1)) := rfl
  rw [hbare, readBare, document, hskip, hvalue, readNumber_ones h]
  rfl

theorem not_isReadable_ones {n : Nat} (h : Numeral.mostDigits < n + 1) :
    ¬IsReadable (Utf8.encode (ones (n + 1))) := by
  rintro ⟨text, htext, hlong⟩
  rw [Utf8.strict_encode] at htext
  cases htext
  exact hlong _ (read_ones h)

end RemoteShell.Json
