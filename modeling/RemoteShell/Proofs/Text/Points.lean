import Mathlib.Data.List.Chain
import Mathlib.Data.List.TakeWhile
import RemoteShell.Text.Points

set_option autoImplicit false

namespace RemoteShell.Points

@[simp] theorem length_toText (s : Points) : s.toText.length = s.length := List.length_map _

/-- No half that begins a pair stands right before one that ends it. -/
def IsApart (s : Points) : Prop := s.IsChain fun p q => ¬(p.isHigh = true ∧ q.isLow = true)

instance (s : Points) : Decidable s.IsApart := inferInstanceAs (Decidable (List.IsChain _ _))

theorem IsApart.reverse_cons {p : Point} {s : Points} (h : IsApart s.reverse)
    (hp : ∀ q ∈ s.head?, ¬(q.isHigh = true ∧ p.isLow = true)) : IsApart (p :: s).reverse := by
  rw [List.reverse_cons]
  refine List.isChain_append.mpr ⟨h, List.isChain_singleton p, fun q hq r hr => ?_⟩
  obtain rfl : p = r := by simpa using hr
  exact hp q (by rwa [List.getLast?_reverse] at hq)

theorem IsApart.of_reverse_cons {p : Point} {s : Points} (h : IsApart (p :: s).reverse) :
    IsApart s.reverse := by
  rw [List.reverse_cons] at h
  exact List.IsChain.left_of_append h

theorem isApart_ofText (s : Text) : (ofText s).IsApart :=
  (List.isChain_map Point.char).mpr <| List.isChain_iff_forall_rel_of_append_cons_cons.mpr
    fun _ => by simp [Point.isHigh]

theorem eq_ofText_iff {s : Points} : (∃ t : Text, s = t) ↔ ∀ p ∈ s, p.isHalf = false := by
  constructor
  · rintro ⟨t, rfl⟩ p hp
    obtain ⟨c, -, rfl⟩ := List.mem_map.mp hp
    rfl
  · intro h
    refine ⟨s.toText, ?_⟩
    rw [toText, ofText, List.map_map, List.map_congr_left (g := id), List.map_id]
    intro p hp
    cases p with
    | char c => rfl
    | half n => cases h _ hp

theorem encodingProblem?_eq_none_iff {s : Points} :
    s.encodingProblem? = none ↔ ∃ t : Text, s = t := by
  rw [eq_ofText_iff]
  unfold encodingProblem?
  cases hrest : s.dropWhile fun p => !p.isHalf with
  | nil =>
    have hall := List.dropWhile_eq_nil_iff.mp hrest
    exact iff_of_true rfl (by simpa using hall)
  | cons p rest =>
    have hp : p.isHalf = true := by
      have hhead := List.head?_dropWhile_not (fun p : Point => !p.isHalf) s
      rw [hrest] at hhead
      simpa using hhead
    have hmem : p ∈ s := (List.dropWhile_suffix _).subset (hrest ▸ List.mem_cons_self)
    cases p with
    | char c => cases hp
    | half n => exact iff_of_false nofun fun h => by cases h _ hmem

theorem encodingProblem_ne_nil {s : Points} {problem : Text}
    (h : s.encodingProblem? = some problem) : problem ≠ [] := by
  unfold encodingProblem? at h
  split at h
  · cases h
    exact List.append_ne_nil_of_right_ne_nil _ (by decide)
  · cases h

end RemoteShell.Points
