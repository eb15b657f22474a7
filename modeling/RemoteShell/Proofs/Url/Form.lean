import RemoteShell.Url.Form
import RemoteShell.Proofs.Url.Target

set_option autoImplicit false

namespace RemoteShell.Url.Form

theorem encodePart_cons (c : Char) (s : Text) :
    encodePart (c :: s) =
      (if c = ' ' then ['+']
        else if isUnreserved c then [c]
        else (Utf8.encodeChar c).flatMap percentOctet) ++ encodePart s := rfl

theorem not_mem_percentOctet {d : Char} (hd : Text.hexValue? d = none) (hpercent : d ≠ '%')
    (octets : Octets) : d ∉ octets.flatMap percentOctet := by
  refine fun h => forall_mem_percentOctet (· ≠ d) hpercent.symm (fun n hn => ?_) octets d h rfl
  have hdigit := isSome_hexValue?_upperHexDigit n
  rw [hn, hd] at hdigit
  cases hdigit

theorem not_mem_encodePart {d : Char} (hd : d ∈ ['&', '=']) (s : Text) : d ∉ encodePart s := by
  have hmark : d ≠ '+' ∧ isUnreserved d = false ∧ Text.hexValue? d = none ∧ d ≠ '%' := by
    rw [List.mem_cons, List.mem_singleton] at hd
    rcases hd with rfl | rfl <;> decide
  obtain ⟨hplus, hreserved, hdigit, hpercent⟩ := hmark
  intro h
  obtain ⟨c, -, hc⟩ := List.mem_flatMap.mp h
  split at hc
  · exact hplus (List.mem_singleton.mp hc)
  · split at hc
    · next hkeep =>
      rw [← List.mem_singleton.mp hc, hreserved] at hkeep
      cases hkeep
    · exact not_mem_percentOctet hdigit hpercent _ hc

theorem map_space_percentOctet (octets : Octets) :
    (octets.flatMap percentOctet).map (fun c => if c = '+' then ' ' else c) =
      octets.flatMap percentOctet := by
  refine (List.map_congr_left fun c hc => if_neg ?_).trans (List.map_id _)
  rintro rfl
  exact not_mem_percentOctet (by decide) (by decide) _ hc

theorem percentOctets_encodePart (s : Text) :
    percentOctets ((encodePart s).map fun c => if c = '+' then ' ' else c) = Utf8.encode s := by
  induction s with
  | nil => rfl
  | cons c s ih =>
    rw [encodePart_cons, List.map_append]
    change _ = Utf8.encodeChar c ++ Utf8.encode s
    rw [← ih]
    split
    · next hspace =>
      subst hspace
      exact percentOctets_char nofun
    · split
      · next hkeep =>
        have hplus : c ≠ '+' := by rintro rfl; exact absurd hkeep (by decide)
        have hpercent : c ≠ '%' := by rintro rfl; exact absurd hkeep (by decide)
        rw [List.map_singleton, if_neg hplus]
        exact percentOctets_char fun h => absurd h hpercent
      · rw [map_space_percentOctet, percentOctets_percentOctet]

theorem decodePart_encodePart (s : Text) : decodePart (encodePart s) = s := by
  rw [decodePart, percentDecode, percentOctets_encodePart, Utf8.decode_encode]

theorem decodePair_encodePair (pair : Text × Text) : decodePair (encodePair pair) = pair := by
  rw [decodePair, encodePair, Text.cutOnce_append (not_mem_encodePart (by decide) _)]
  simp only [Option.getD_some, decodePart_encodePart]

theorem not_mem_encodePair (pair : Text × Text) : '&' ∉ encodePair pair := by
  rw [encodePair, List.mem_append, List.mem_cons, not_or, not_or]
  exact ⟨not_mem_encodePart (by decide) _, by decide, not_mem_encodePart (by decide) _⟩

theorem encode_ne_nil {pairs : List (Text × Text)} (h : pairs ≠ []) : encode pairs ≠ [] := by
  obtain ⟨pair, rest, rfl⟩ := List.exists_cons_of_ne_nil h
  have hpair : encodePair pair ≠ [] := List.append_ne_nil_of_right_ne_nil _ (List.cons_ne_nil _ _)
  intro hnil
  have hhead := Text.head?_glue_cons (c := '&') hpair (rest.map encodePair)
  rw [encode, List.map_cons] at hnil
  rw [hnil] at hhead
  exact hpair (List.head?_eq_none_iff.mp hhead.symm)

theorem decode_encode (pairs : List (Text × Text)) : decode (encode pairs) = pairs := by
  cases pairs with
  | nil => rfl
  | cons pair rest =>
    have hne : (pair :: rest).map encodePair ≠ [] := by simp
    rw [decode, if_neg (by simpa using encode_ne_nil (List.cons_ne_nil pair rest)), encode,
      Text.cut_glue hne fun t ht => ?_]
    · rw [List.map_map]
      exact List.map_id'' decodePair_encodePair _
    · obtain ⟨p, -, rfl⟩ := List.mem_map.mp ht
      exact not_mem_encodePair p

end RemoteShell.Url.Form
