import Mathlib.Data.List.TakeWhile
import RemoteShell.Markup

set_option autoImplicit false

namespace RemoteShell.Markup

variable {c : Char} {s body : Text} {segs : List Segment}

def IsBody : Text → Prop
  | [] => False
  | c :: inner => isTagStart c = true ∧ inner.all isInside = true

instance : DecidablePred IsBody
  | [] => .isFalse id
  | c :: inner => inferInstanceAs (Decidable (isTagStart c = true ∧ inner.all isInside = true))

theorem isInside_of_isTagStart (h : isTagStart c = true) : isInside c = true := by
  have hopen : c ≠ '[' := by rintro rfl; exact absurd h (by decide)
  have hclose : c ≠ ']' := by rintro rfl; exact absurd h (by decide)
  simp [isInside, hopen, hclose]

theorem IsBody.isInside (h : IsBody body) : body.all isInside = true := by
  cases body with
  | nil => exact h.elim
  | cons c inner => rw [List.all_cons, isInside_of_isTagStart h.1, h.2, Bool.and_true]

theorem IsBody.closing (h : IsBody body) : IsBody ('/' :: body) := ⟨rfl, h.isInside⟩

theorem body?_append (h : IsBody body) (rest : Text) :
    body? (body ++ ']' :: rest) = some body := by
  cases body with
  | nil => exact h.elim
  | cons c inner =>
    have hinner := List.all_eq_true.mp h.2
    rw [List.cons_append, body?, List.dropWhile_append_of_pos hinner,
      List.takeWhile_append_of_pos hinner]
    simp [h.1, Markup.isInside]

theorem exists_eq_of_body? (h : body? s = some body) :
    IsBody body ∧ ∃ rest, s = body ++ ']' :: rest := by
  cases s with
  | nil => cases h
  | cons c tail =>
    rw [body?] at h
    split at h
    · next hc =>
      simp only [Bool.and_eq_true, decide_eq_true_eq] at hc
      obtain ⟨rest, hrest⟩ := List.head?_eq_some_iff.mp hc.2
      obtain rfl := Option.some.inj h
      refine ⟨⟨hc.1, List.all_takeWhile⟩, rest, ?_⟩
      rw [List.cons_append, ← hrest, List.takeWhile_append_dropWhile]
    · cases h

def bracket? (s : Text) : Option Char := (s.dropWhile isInside).head?

theorem bracket?_append (s t : Text) : bracket? (s ++ t) = (bracket? s).or (bracket? t) := by
  induction s with
  | nil => rfl
  | cons c s ih =>
    unfold bracket? at ih ⊢
    rw [List.cons_append, List.dropWhile_cons, List.dropWhile_cons]
    split
    · exact ih
    · rfl

theorem bracket?_of_isInside (h : s.all isInside = true) : bracket? s = none := by
  rw [bracket?, List.dropWhile_eq_nil_iff.mpr (List.all_eq_true.mp h), List.head?_nil]

theorem body?_eq_none_iff :
    body? s = none ↔ (bracket? s = some ']' → ∀ c ∈ s.head?, isTagStart c = false) := by
  cases s with
  | nil => simp [body?]
  | cons c tail =>
    by_cases hc : isTagStart c = true
    · have hbracket : (c :: tail).dropWhile isInside = tail.dropWhile isInside :=
        List.dropWhile_cons_of_pos (isInside_of_isTagStart hc)
      simp [body?, bracket?, hc, hbracket]
    · simp [body?, hc]

theorem segments_char (hopen : c ≠ '[') (hslash : c ≠ '\\') (s : Text) :
    segments (c :: s) = .char c :: segments s := by
  rw [segments, if_neg hopen, if_neg hslash]

theorem segments_open (h : body? s = none) : segments ('[' :: s) = .char '[' :: segments s := by
  rw [segments, if_pos rfl, h]

theorem segments_slash (s : Text) :
    (∃ n body more, segments s = .bracket n body :: more ∧
      segments ('\\' :: s) = .bracket (n + 1) body :: more) ∨
    (∀ n body more, segments s ≠ .bracket n body :: more) ∧
      segments ('\\' :: s) = .char '\\' :: segments s := by
  rw [segments, if_neg (by decide), if_pos rfl]
  rcases segments s with _ | ⟨c | ⟨n, body⟩, more⟩
  · exact .inr ⟨nofun, rfl⟩
  · exact .inr ⟨nofun, rfl⟩
  · exact .inl ⟨n, body, more, rfl, rfl⟩

theorem segments_inside {w : Text} (h : w.all isInside = true) (rest : Text) :
    segments (w ++ ']' :: rest) = w.map .char ++ .char ']' :: segments rest := by
  induction w with
  | nil => exact segments_char (by decide) (by decide) rest
  | cons d w ih =>
    rw [List.all_cons, Bool.and_eq_true] at h
    obtain ⟨hd, hw⟩ := h
    have hopen : d ≠ '[' := by rintro rfl; exact absurd hd (by decide)
    rw [List.cons_append, List.map_cons, List.cons_append, ← ih hw]
    by_cases hslash : d = '\\'
    · subst hslash
      rcases segments_slash (w ++ ']' :: rest) with ⟨n, body, more, hs, -⟩ | ⟨-, hs⟩
      · rw [ih hw] at hs
        cases w <;> cases hs
      · exact hs
    · exact segments_char hopen hslash _

theorem segments_tag (n : Nat) (h : IsBody body) (rest : Text) :
    segments (List.replicate n '\\' ++ '[' :: (body ++ ']' :: rest)) =
      .bracket n body :: segments rest := by
  induction n with
  | zero =>
    have hlength : body.length = (body.map Segment.char).length := (List.length_map _).symm
    rw [List.replicate_zero, List.nil_append, segments, if_pos rfl, body?_append h]
    dsimp only
    rw [segments_inside h.isInside, hlength, List.drop_length_add_append]
    rfl
  | succ n ih =>
    rw [List.replicate_succ, List.cons_append]
    rcases segments_slash (List.replicate n '\\' ++ '[' :: (body ++ ']' :: rest)) with
      ⟨_, _, _, hs, h'⟩ | ⟨hs, -⟩
    · rw [ih] at hs
      cases hs
      exact h'
    · exact absurd ih (hs n body _)

/-- The cut of a markup text. -/
inductive Cuts : Text → List Segment → Prop where
  | nil : Cuts [] []
  | char {c : Char} {s : Text} {segs : List Segment} (hopen : c = '[' → body? s = none)
      (hslash : c = '\\' → ∀ n body more, segs ≠ .bracket n body :: more) (rest : Cuts s segs) :
      Cuts (c :: s) (.char c :: segs)
  | bracket (n : Nat) {body s : Text} {segs : List Segment} (hbody : IsBody body)
      (rest : Cuts s segs) :
      Cuts (List.replicate n '\\' ++ '[' :: (body ++ ']' :: s)) (.bracket n body :: segs)

theorem cuts_segments (s : Text) : Cuts s (segments s) := by
  match s with
  | [] => exact .nil
  | c :: tail =>
    by_cases hopen : c = '['
    · subst hopen
      cases hb : body? tail with
      | none =>
        rw [segments_open hb]
        exact .char (fun _ => hb) (fun h => absurd h (by decide)) (cuts_segments tail)
      | some body =>
        obtain ⟨hbody, rest, rfl⟩ := exists_eq_of_body? hb
        have htag := segments_tag 0 hbody rest
        rw [List.replicate_zero, List.nil_append] at htag
        rw [htag]
        exact .bracket 0 hbody (cuts_segments rest)
    · by_cases hslash : c = '\\'
      · subst hslash
        have htail := cuts_segments tail
        rcases segments_slash tail with ⟨n, body, more, hs, h⟩ | ⟨hs, h⟩
        · rw [h]
          rw [hs] at htail
          cases htail with
          | bracket n hbody rest => exact .bracket (n + 1) hbody rest
        · rw [h]
          exact .char (fun h => absurd h hopen) (fun _ => hs) htail
      · rw [segments_char hopen hslash]
        exact .char (fun h => absurd h hopen) (fun h => absurd h hslash) (cuts_segments tail)
termination_by s.length
decreasing_by all_goals simp_all <;> omega

/-- A segment with another number of backslashes before its bracket. -/
def Segment.scale (g : Nat → Nat) : Segment → Segment
  | .char c => .char c
  | .bracket n body => .bracket (g n) body

def scaled (g : Nat → Nat) (segs : List Segment) : Text :=
  segs.flatMap fun x => (x.scale g).written

theorem Cuts.bracket?_scaled (h : Cuts s segs) (g : Nat → Nat) :
    bracket? (scaled g segs) = bracket? s := by
  induction h with
  | nil => rfl
  | @char c s segs _ _ _ ih =>
    rw [scaled, List.flatMap_cons, bracket?_append, ← scaled, ih, ← bracket?_append, Segment.scale,
      Segment.written, List.singleton_append]
  | @bracket n body s segs _ _ _ =>
    have hslashes (k : Nat) (t : Text) :
        bracket? (List.replicate k '\\' ++ '[' :: t) = some '[' := by
      rw [bracket?_append, bracket?_of_isInside]
      · rfl
      · rw [List.all_replicate]
        cases k <;> rfl
    simp only [scaled, List.flatMap_cons, Segment.scale, Segment.written, List.append_assoc,
      List.cons_append, hslashes]

theorem Cuts.body?_scaled (h : Cuts s segs) (hs : body? s = none) (g : Nat → Nat) {rest : Text}
    (hrest : bracket? rest ≠ some ']') : body? (scaled g segs ++ rest) = none := by
  rw [body?_eq_none_iff] at hs ⊢
  rw [bracket?_append, h.bracket?_scaled]
  intro hb
  have hclosing : bracket? s = some ']' := by
    cases hbs : bracket? s with
    | none => exact absurd (by simpa [hbs] using hb) hrest
    | some c => simpa [hbs] using hb
  cases h with
  | nil => cases hclosing
  | char => exact hs hclosing
  | bracket n =>
    rintro c hc
    cases hg : g n with
    | zero =>
      simp only [scaled, List.flatMap_cons, Segment.scale, Segment.written, hg] at hc
      cases hc
      rfl
    | succ k =>
      simp only [scaled, List.flatMap_cons, Segment.scale, Segment.written, hg] at hc
      cases hc
      rfl

/-- Backslashes may change in number without a change of the cut, as long as none of them comes
before a bracket that had none. -/
theorem Cuts.segments_scaled (h : Cuts s segs) (g : Nat → Nat) {rest : Text}
    (hrest : bracket? rest ≠ some ']')
    (hlast : segs.getLast? = some (.char '\\') → ∀ n body more,
      segments rest ≠ .bracket n body :: more) :
    segments (scaled g segs ++ rest) = segs.map (Segment.scale g) ++ segments rest := by
  induction h with
  | nil => rfl
  | @char c s segs hopen hslash h ih =>
    have htail : segments (scaled g segs ++ rest) = segs.map (Segment.scale g) ++ segments rest :=
      ih fun htail => hlast (by rw [List.getLast?_cons, htail]; rfl)
    change segments (c :: (scaled g segs ++ rest)) =
      .char c :: (segs.map (Segment.scale g) ++ segments rest)
    by_cases hc : c = '['
    · subst hc
      rw [segments_open (h.body?_scaled (hopen rfl) g hrest), htail]
    · by_cases hs : c = '\\'
      · subst hs
        have hnone : ∀ n body more, segs.map (Segment.scale g) ++ segments rest ≠
            .bracket n body :: more := by
          intro n body more
          rcases segs with _ | ⟨d | ⟨k, inner⟩, segs⟩
          · exact hlast rfl n body more
          · exact nofun
          · exact absurd rfl (hslash rfl k inner segs)
        rw [← htail] at hnone ⊢
        rcases segments_slash (scaled g segs ++ rest) with ⟨n, body, more, hs, -⟩ | ⟨-, hs⟩
        · exact absurd hs (hnone n body more)
        · exact hs
      · rw [segments_char hc hs, htail]
  | @bracket n body s segs hbody _ ih =>
    have htail : segments (scaled g segs ++ rest) = segs.map (Segment.scale g) ++ segments rest :=
      ih fun htail => hlast (by rw [List.getLast?_cons, htail]; rfl)
    have htag := segments_tag (g n) hbody (scaled g segs ++ rest)
    rw [htail] at htag
    change _ = .bracket (g n) body :: (segs.map (Segment.scale g) ++ segments rest)
    rw [← htag, scaled, List.flatMap_cons, ← scaled]
    simp only [Segment.scale, Segment.written, List.append_assoc, List.cons_append, List.nil_append]

theorem scaled_id (h : Cuts s segs) : scaled id segs = s := by
  induction h with
  | nil => rfl
  | @char c s segs _ _ _ ih =>
    rw [scaled, List.flatMap_cons, ← scaled, ih]
    rfl
  | @bracket n body s segs _ _ ih =>
    rw [scaled, List.flatMap_cons, ← scaled, ih]
    simp only [Segment.scale, Segment.written, id, List.append_assoc, List.cons_append,
      List.nil_append]

theorem flatMap_escaped (segs : List Segment) :
    segs.flatMap Segment.escaped = scaled (2 * · + 1) segs := by
  unfold scaled
  congr 1
  funext x
  cases x <;> rfl

theorem Cuts.body?_escaped (h : Cuts s segs) (hs : body? s = none) {rest : Text}
    (hrest : bracket? rest ≠ some ']') :
    body? (segs.flatMap Segment.escaped ++ rest) = none := by
  rw [flatMap_escaped]
  exact h.body?_scaled hs _ hrest

end RemoteShell.Markup
