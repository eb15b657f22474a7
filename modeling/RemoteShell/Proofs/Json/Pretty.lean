import RemoteShell.Proofs.Json.RoundTrip

set_option autoImplicit false

namespace RemoteShell.Json

variable (constants : Bool)

theorem skipSpace_newLine (depth : Nat) {c : Char} (s : Text) (h : isSpace c = false) :
    skipSpace (newLine depth ++ c :: s) = c :: s := by
  have hblank : ∀ d ∈ newLine depth, isSpace d = true := by
    intro d hd
    rcases List.mem_cons.mp hd with rfl | hd
    · rfl
    · rw [List.eq_of_mem_replicate hd]; rfl
  rw [skipSpace, List.dropWhile_append_of_pos hblank]
  exact skipSpace_cons s h

theorem pretty_list (depth : Nat) (v : Value) (vs : List Value) :
    pretty depth (.list (v :: vs)) =
      '[' :: prettyItems (depth + 1) (v :: vs) ++ newLine depth ++ [']'] := rfl

theorem pretty_map (depth : Nat) (key : Points) (v : Value) :
    pretty depth (.map [(key, v)]) = '\x7b' :: (newLine (depth + 1) ++ writeText key ++
      ':' :: ' ' :: pretty (depth + 1) v) ++ newLine depth ++ ['\x7d'] := rfl

theorem prettyItems_last (depth : Nat) (s : Points) :
    prettyItems depth [.text s] = newLine depth ++ writeText s := rfl

theorem prettyItems_cons (depth : Nat) (s : Points) (v : Value) (vs : List Value) :
    prettyItems depth (.text s :: v :: vs) =
      newLine depth ++ writeText s ++ ',' :: prettyItems depth (v :: vs) := rfl

theorem prettyItems_head (depth : Nat) (s : Text) (ss : List Text) :
    ∃ r, prettyItems depth ((s :: ss).map Value.ofText) = newLine depth ++ '"' :: r := by
  cases ss with
  | nil => exact ⟨_, rfl⟩
  | cons t ts =>
    rw [List.map_cons, List.map_cons, prettyItems_cons, List.append_assoc]
    exact ⟨_, rfl⟩

theorem readItems_pretty (depth outer : Nat) (ss : List Text) (hne : ss ≠ []) {fuel : Nat}
    (tail : Text) (hf : ss.length < fuel) :
    readItems constants fuel (skipSpace (prettyItems depth (ss.map Value.ofText) ++
      (newLine outer ++ ']' :: tail))) = .ok (ss.map Value.ofText, tail) := by
  induction ss generalizing fuel with
  | nil => exact absurd rfl hne
  | cons s ss ih =>
    obtain ⟨fuel, rfl⟩ : ∃ n, fuel = n + 2 := ⟨fuel - 2, by rw [List.length_cons] at hf; omega⟩
    cases ss with
    | nil =>
      have hskip : skipSpace (newLine depth ++ (writeText s ++ (newLine outer ++ ']' :: tail))) =
          writeText s ++ (newLine outer ++ ']' :: tail) := skipSpace_newLine depth _ rfl
      rw [List.map_singleton, prettyItems_last, List.append_assoc, hskip]
      exact readItems_last _ (readValue_text constants fuel (Points.isApart_ofText s) _)
        (skipSpace_newLine outer _ rfl)
    | cons t ts =>
      have hrest : readItems constants (fuel + 1) _ = _ :=
        ih (List.cons_ne_nil t ts) (Nat.lt_of_succ_lt_succ hf)
      rw [List.map_cons] at hrest
      rw [List.map_cons, List.map_cons, prettyItems_cons, List.append_assoc, List.append_assoc,
        List.cons_append]
      have hskip (r : Text) : skipSpace (newLine depth ++ (writeText s ++ r)) = writeText s ++ r :=
        skipSpace_newLine depth _ rfl
      rw [hskip]
      exact readItems_comma _ (readValue_text constants fuel (Points.isApart_ofText s) _)
        (skipSpace_cons _ rfl) hrest

theorem readValue_prettyTexts (depth : Nat) (ss : List Text) {fuel : Nat}
    (hf : ss.length + 1 < fuel) (tail : Text) :
    readValue constants fuel (pretty depth (.list (ss.map Value.ofText)) ++ tail) =
      .ok (.list (ss.map Value.ofText), tail) := by
  obtain ⟨fuel, rfl⟩ : ∃ n, fuel = n + 1 := ⟨fuel - 1, by omega⟩
  cases ss with
  | nil => rfl
  | cons s ss =>
    have hitems := readItems_pretty constants (depth + 1) depth (s :: ss)
      (List.cons_ne_nil s ss) tail (Nat.lt_of_succ_lt_succ hf)
    have hpretty : pretty depth (.list ((s :: ss).map Value.ofText)) ++ tail =
        '[' :: (prettyItems (depth + 1) ((s :: ss).map Value.ofText) ++
          (newLine depth ++ ']' :: tail)) := by
      rw [List.map_cons, pretty_list]
      simp only [List.cons_append, List.append_assoc, List.nil_append]
    obtain ⟨r, hr⟩ := prettyItems_head (depth + 1) s ss
    have hinner := skipSpace_newLine (depth + 1) (r ++ (newLine depth ++ ']' :: tail))
      (show isSpace '"' = false from rfl)
    rw [hr, List.append_assoc, List.cons_append] at hitems hpretty
    rw [hinner] at hitems
    rw [hpretty, readValue_list fuel hinner (by decide), hitems]
    rfl

theorem length_le_prettyItems (depth : Nat) (ss : List Text) :
    ss.length ≤ (prettyItems depth (ss.map Value.ofText)).length := by
  induction ss with
  | nil => exact Nat.le_refl 0
  | cons s ss ih =>
    cases ss with
    | nil => exact Nat.succ_le_of_lt (Nat.zero_lt_succ _)
    | cons t ts =>
      rw [List.map_cons] at ih
      rw [List.map_cons, List.map_cons, prettyItems_cons, List.length_append, List.length_cons]
      rw [List.length_cons] at ih
      rw [List.length_cons, List.length_cons]
      omega

theorem length_le_prettyTexts (depth : Nat) (ss : List Text) :
    ss.length + 2 ≤ (pretty depth (.list (ss.map Value.ofText))).length := by
  cases ss with
  | nil => exact Nat.le_refl 2
  | cons s ss =>
    have hitems := length_le_prettyItems (depth + 1) (s :: ss)
    rw [List.map_cons, pretty_list]
    simp only [List.map_cons, List.cons_append, List.length_cons, List.length_append,
      List.length_nil] at hitems ⊢
    omega

theorem document_pretty (key : Text) (ss : List Text) :
    document constants (pretty 0 (.map [(key, .list (ss.map Value.ofText))])) =
      .ok (.map [(key, .list (ss.map Value.ofText))]) := by
  have hpretty : pretty 0 (.map [(key, .list (ss.map Value.ofText))]) =
      '\x7b' :: (newLine 1 ++ '"' :: ((Points.ofText key).flatMap writePoint ++ '"' :: ':' :: ' ' ::
        (pretty 1 (.list (ss.map Value.ofText)) ++ (newLine 0 ++ ['\x7d'])))) := by
    rw [pretty_map, writeText]
    simp only [List.cons_append, List.append_assoc, List.nil_append]
  have hfuel : ∃ fuel,
      2 * (pretty 0 (.map [(key, .list (ss.map Value.ofText))])).length + 2 = fuel + 2 ∧
        ss.length + 1 < fuel := by
    refine ⟨_, rfl, ?_⟩
    have hlength := length_le_prettyTexts 1 ss
    rw [hpretty]
    simp only [List.length_cons, List.length_append]
    omega
  obtain ⟨fuel, hfuel, hlarge⟩ := hfuel
  have hlist := readValue_prettyTexts constants 1 ss hlarge (newLine 0 ++ ['\x7d'])
  have hblank : skipSpace (' ' ::
      (pretty 1 (.list (ss.map Value.ofText)) ++ (newLine 0 ++ ['\x7d']))) =
        pretty 1 (.list (ss.map Value.ofText)) ++ (newLine 0 ++ ['\x7d']) := by
    cases ss with
    | nil => rfl
    | cons s ss => rfl
  rw [← hblank] at hlist
  have hfields := readFields_last fuel (readString_write _ (Points.isApart_ofText key) _) hlist
    (skipSpace_newLine 0 [] rfl)
  rw [document, hfuel, hpretty, skipSpace_cons _ rfl,
    readValue_map (fuel + 1) (skipSpace_newLine 1 _ rfl), hfields]
  rfl

end RemoteShell.Json
