import RemoteShell.Text

set_option autoImplicit false

namespace RemoteShell.Text

theorem isDigit_eq (c : Char) : isDigit c = c.isDigit := rfl

theorem isDigit_of_mem_ofNat {n : Nat} {c : Char} (h : c ∈ ofNat n) : isDigit c = true := by
  rw [isDigit_eq]
  exact Nat.isDigit_of_mem_toDigits (by decide) (by decide) h

theorem ofNat_ne_nil (n : Nat) : ofNat n ≠ [] := Nat.toDigits_ne_nil

theorem readDigits_ofNat (n : Nat) : readDigits (ofNat n) = n :=
  Nat.ofDigitChars_ten_toDigits

theorem ofNat_of_lt_ten {n : Nat} (h : n < 10) : ofNat n = [n.digitChar] :=
  Nat.toDigits_of_lt_base h

theorem ofNat_head_ne_zero {n : Nat} (hn : 0 < n) : (ofNat n).head? ≠ some '0' := by
  induction n using Nat.strongRecOn with
  | ind n ih =>
    by_cases h : n < 10
    · rw [ofNat_of_lt_ten h]
      simpa using by omega
    · have hd := ih (n / 10) (by omega) (by omega)
      rw [ofNat, Nat.toDigits_of_base_le (by decide) (by omega), List.head?_append]
      obtain ⟨c, t, hc⟩ := List.exists_cons_of_ne_nil (ofNat_ne_nil (n / 10))
      rw [hc] at hd
      rw [show Nat.toDigits 10 (n / 10) = c :: t from hc]
      simpa using hd

theorem hexValue?_digitChar : ∀ d, d < 16 → hexValue? (Nat.digitChar d) = some d := by decide

theorem hexValue?_lowerHexDigit (n : Nat) : hexValue? (lowerHexDigit n) = some (n % 16) :=
  hexValue?_digitChar _ (Nat.mod_lt _ (by decide))

theorem hexValue?_toUpper_digitChar :
    ∀ d, d < 16 → hexValue? (Nat.digitChar d).toUpper = some d := by decide

theorem hexValue?_upperHexDigit (n : Nat) : hexValue? (upperHexDigit n) = some (n % 16) :=
  hexValue?_toUpper_digitChar _ (Nat.mod_lt _ (by decide))

theorem hexDigits_four (n : Nat) :
    hexDigits 4 n = [lowerHexDigit (n / 4096), lowerHexDigit (n / 256), lowerHexDigit (n / 16),
      lowerHexDigit n] := by
  simp [hexDigits, Nat.div_div_eq_div_mul]

end RemoteShell.Text
