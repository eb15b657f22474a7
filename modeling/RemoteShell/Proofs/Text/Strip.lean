import RemoteShell.Text

set_option autoImplicit false

namespace RemoteShell.Text

@[simp] theorem stripLeft_nil : stripLeft [] = [] := rfl

theorem stripLeft_cons (c : Char) (s : Text) :
    stripLeft (c :: s) = if isBlank c then stripLeft s else c :: s := by
  simp only [stripLeft, List.dropWhile_cons]

theorem not_blank_of_head?_stripLeft {s : Text} {c : Char} (h : (stripLeft s).head? = some c) :
    isBlank c = false := by
  have hd := List.head?_dropWhile_not isBlank s
  rw [stripLeft] at h
  rw [h] at hd
  simpa using hd

theorem stripLeft_eq_self {s : Text} (h : ∀ c, s.head? = some c → isBlank c = false) :
    stripLeft s = s := by
  cases s with
  | nil => rfl
  | cons c s => simp [stripLeft_cons, h c rfl]

theorem stripRight_eq_reverse (s : Text) : stripRight s = (stripLeft s.reverse).reverse := rfl

theorem stripRight_isPrefix (s : Text) : stripRight s <+: s := by
  have h := List.dropWhile_suffix isBlank (l := s.reverse)
  rw [stripRight, ← List.reverse_suffix, List.reverse_reverse]
  exact h

theorem stripRight_eq_self {s : Text} (h : ∀ c, s.getLast? = some c → isBlank c = false) :
    stripRight s = s := by
  rw [stripRight_eq_reverse, stripLeft_eq_self, List.reverse_reverse]
  intro c hc
  exact h c (by simpa using hc)

theorem not_blank_of_head?_strip {s : Text} {c : Char} (h : (strip s).head? = some c) :
    isBlank c = false := by
  obtain ⟨t, ht⟩ := stripRight_isPrefix (stripLeft s)
  apply not_blank_of_head?_stripLeft (s := s)
  rw [← ht, List.head?_append]
  change ((strip s).head?.or t.head?) = some c
  simp [h]

theorem strip_eq_self {s : Text} (hl : ∀ c, s.head? = some c → isBlank c = false)
    (hr : ∀ c, s.getLast? = some c → isBlank c = false) : strip s = s := by
  rw [strip, stripLeft_eq_self hl, stripRight_eq_self hr]

theorem not_blank_of_getLast?_strip {s : Text} {c : Char} (h : (strip s).getLast? = some c) :
    isBlank c = false := by
  apply not_blank_of_head?_stripLeft (s := (stripLeft s).reverse)
  rwa [strip, stripRight_eq_reverse, List.getLast?_reverse] at h

theorem strip_isInfix (s : Text) : strip s <:+: s :=
  (stripRight_isPrefix _).isInfix.trans (List.dropWhile_suffix isBlank).isInfix

theorem length_strip_le (s : Text) : (strip s).length ≤ s.length := (strip_isInfix s).length_le

theorem strip_eq_self_of_length {s : Text} (h : s.length ≤ (strip s).length) : strip s = s :=
  (strip_isInfix s).eq_of_length (Nat.le_antisymm (length_strip_le s) h)

theorem strip_cons_of_blank {c : Char} (s : Text) (h : isBlank c = true) :
    strip (c :: s) = strip s := by
  simp only [strip, stripLeft_cons, h, if_true]

theorem isBlank_space : isBlank ' ' = true := rfl

theorem strip_append_of_blank_left {t : Text} (s : Text) (ht : ∀ c ∈ t, isBlank c = true) :
    strip (t ++ s) = strip s := by
  rw [strip, strip, stripLeft, List.dropWhile_append_of_pos ht, stripLeft]

theorem strip_append_of_blank_right (s : Text) {t : Text} (ht : ∀ c ∈ t, isBlank c = true) :
    strip (s ++ t) = strip s := by
  have hright (u : Text) : stripRight (u ++ t) = stripRight u := by
    unfold stripRight
    rw [List.reverse_append, List.dropWhile_append_of_pos fun c hc => ht c (List.mem_reverse.mp hc)]
  have hall : (t ++ []).dropWhile isBlank = [].dropWhile isBlank := List.dropWhile_append_of_pos ht
  rw [List.append_nil, List.dropWhile_nil] at hall
  unfold strip stripLeft
  rw [List.dropWhile_append]
  split
  · next hnone => rw [hall, List.isEmpty_iff.mp hnone]
  · exact hright _

theorem strip_append_between {a b : Text} (s : Text) (ha : strip a = a) (hb : strip b = b)
    (hane : a ≠ []) (hbne : b ≠ []) : strip (a ++ s ++ b) = a ++ s ++ b := by
  refine strip_eq_self (fun c hc => ?_) fun c hc => ?_
  · obtain ⟨d, rest, rfl⟩ := List.exists_cons_of_ne_nil hane
    refine not_blank_of_head?_strip (s := d :: rest) ?_
    rw [ha]
    exact hc
  · rw [List.getLast?_append, List.getLast?_eq_some_getLast hbne, Option.some_or,
      ← List.getLast?_eq_some_getLast hbne, ← hb] at hc
    exact not_blank_of_getLast?_strip hc

end RemoteShell.Text
