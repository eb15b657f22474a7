import RemoteShell.Assoc

set_option autoImplicit false

namespace RemoteShell.Assoc

variable {κ α : Type} [DecidableEq κ]

theorem put_of_not_mem {key : κ} (value : α) {m : List (κ × α)} (h : key ∉ keys m) :
    put key value m = m ++ [(key, value)] := by
  induction m with
  | nil => rfl
  | cons e rest ih =>
    simp only [keys, List.map_cons, List.mem_cons, not_or] at h
    rw [put, if_neg (Ne.symm h.1), ih h.2, List.cons_append]

theorem putAll_of_nodup {entries base : List (κ × α)} (h : (keys (base ++ entries)).Nodup) :
    putAll entries base = base ++ entries := by
  induction entries generalizing base with
  | nil => simp [putAll]
  | cons e rest ih =>
    have hk : e.1 ∉ keys base := by
      intro hm
      simp only [keys, List.map_append, List.map_cons, List.nodup_append] at h
      exact h.2.2 e.1 hm e.1 (by simp) rfl
    have hr := @ih (base ++ [e]) (by simpa using h)
    rw [putAll, List.foldl_cons, put_of_not_mem e.2 hk]
    simpa [putAll] using hr

theorem ofPairs_of_nodup {entries : List (κ × α)} (h : (keys entries).Nodup) :
    ofPairs entries = entries :=
  putAll_of_nodup h

theorem get?_erase (key other : κ) (m : List (κ × α)) :
    get? other (erase key m) = if other = key then none else get? other m := by
  induction m with
  | nil => simp [erase, get?]
  | cons e rest ih =>
    obtain ⟨k, v⟩ := e
    unfold erase at ih ⊢
    by_cases hk : k = key
    · rw [List.filter_cons_of_neg (by simpa using hk), ih, get?_cons]
      by_cases ho : k = other
      · rw [if_pos ho, if_pos (ho.symm.trans hk), if_pos (ho.symm.trans hk)]
      · rw [if_neg ho]
    · rw [List.filter_cons_of_pos (by simpa using hk), get?_cons, get?_cons, ih]
      by_cases ho : k = other
      · rw [if_pos ho, if_pos ho, if_neg fun h => hk (ho.trans h)]
      · rw [if_neg ho, if_neg ho]

theorem mem_put {key : κ} {value : α} {m : List (κ × α)} {e : κ × α} (h : e ∈ put key value m) :
    e = (key, value) ∨ e ∈ m := by
  induction m with
  | nil => exact .inl (List.mem_singleton.mp h)
  | cons f rest ih =>
    rw [put] at h
    split at h
    · next hk =>
      rcases List.mem_cons.mp h with rfl | h
      · exact .inl (by rw [hk])
      · exact .inr (List.mem_cons_of_mem _ h)
    · rcases List.mem_cons.mp h with rfl | h
      · exact .inr List.mem_cons_self
      · exact (ih h).imp_right (List.mem_cons_of_mem _)

theorem mem_putAll {entries base : List (κ × α)} {e : κ × α} (h : e ∈ putAll entries base) :
    e ∈ entries ∨ e ∈ base := by
  induction entries generalizing base with
  | nil => exact .inr h
  | cons f rest ih =>
    rcases ih h with h | h
    · exact .inl (List.mem_cons_of_mem _ h)
    · rcases mem_put h with rfl | h
      · exact .inl List.mem_cons_self
      · exact .inr h

theorem mem_ofPairs {entries : List (κ × α)} {e : κ × α} (h : e ∈ ofPairs entries) : e ∈ entries :=
  (mem_putAll h).resolve_right List.not_mem_nil

theorem keys_put (key : κ) (value : α) (m : List (κ × α)) :
    keys (put key value m) = if key ∈ keys m then keys m else keys m ++ [key] := by
  induction m with
  | nil => rfl
  | cons e rest ih =>
    obtain ⟨k, v⟩ := e
    by_cases hk : k = key
    · subst hk
      simp [put, keys]
    · unfold keys at ih ⊢
      simp only [put, if_neg hk, List.map_cons, ih, List.mem_cons, Ne.symm hk, false_or]
      split <;> rfl

theorem nodup_keys_putAll {entries base : List (κ × α)} (h : (keys base).Nodup) :
    (keys (putAll entries base)).Nodup := by
  induction entries generalizing base with
  | nil => exact h
  | cons e rest ih =>
    refine ih ?_
    rw [keys_put]
    split
    · exact h
    · next hk => exact List.nodup_append.mpr ⟨h, by simp, by rintro _ ha _ hb rfl; simp_all⟩

theorem nodup_keys_ofPairs (entries : List (κ × α)) : (keys (ofPairs entries)).Nodup :=
  nodup_keys_putAll List.nodup_nil

theorem get?_of_mem {m : List (κ × α)} (h : (keys m).Nodup) {e : κ × α} (he : e ∈ m) :
    get? e.1 m = some e.2 := by
  induction m with
  | nil => cases he
  | cons f rest ih =>
    rw [keys, List.map_cons, List.nodup_cons] at h
    rw [get?_cons]
    rcases List.mem_cons.mp he with rfl | he
    · rw [if_pos rfl]
    · have hne : f.1 ≠ e.1 := fun hk => h.1 (hk ▸ List.mem_map_of_mem he)
      rw [if_neg hne, ih h.2 he]

theorem mem_of_get? {m : List (κ × α)} {key : κ} {value : α} (h : get? key m = some value) :
    (key, value) ∈ m := by
  induction m with
  | nil => cases h
  | cons e rest ih =>
    rw [get?_cons] at h
    split at h
    · next hk =>
      cases h
      exact hk ▸ List.mem_cons_self
    · exact List.mem_cons_of_mem _ (ih h)

theorem ofPairs_concat (entries : List (κ × α)) (e : κ × α) :
    ofPairs (entries ++ [e]) = put e.1 e.2 (ofPairs entries) := by
  rw [ofPairs, putAll, List.foldl_append]
  rfl

theorem keys_ofPairs [BEq κ] [LawfulBEq κ] (entries : List (κ × α)) :
    keys (ofPairs entries) = (keys entries).eraseDups := by
  rw [← List.reverse_reverse entries]
  induction entries.reverse with
  | nil => rfl
  | cons e rest ih =>
    have hkeys : keys (rest.reverse ++ [e]) = keys rest.reverse ++ [e.1] := List.map_append
    rw [List.reverse_cons, ofPairs_concat, keys_put, ih, hkeys, List.eraseDups_append,
      List.cons_removeAll]
    by_cases h : e.1 ∈ keys rest.reverse <;> simp [h, List.eraseDups_cons]

/-- A key has the value that came last for it. -/
theorem get?_ofPairs (key : κ) (entries : List (κ × α)) :
    get? key (ofPairs entries) = (entries.reverse.find? fun e => e.1 = key).map Prod.snd := by
  rw [← List.reverse_reverse entries, List.reverse_reverse entries.reverse]
  induction entries.reverse with
  | nil => rfl
  | cons e rest ih =>
    rw [List.reverse_cons, ofPairs_concat, get?_put, ih]
    by_cases h : e.1 = key <;> simp [h]

end RemoteShell.Assoc
