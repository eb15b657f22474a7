import RemoteShell.Disk
import RemoteShell.Proofs.Outcome

set_option autoImplicit false

namespace RemoteShell.Disk

variable {d : Disk} {p q : Place} {content : Octets}

theorem lookup_put (d : Disk) (p : Place) (content : Octets) :
    (d.put p content).files.lookup p = some content := by
  rw [put, List.lookup_cons, beq_self_eq_true]

theorem isFile_put (d : Disk) (content : Octets) (h : q ≠ p) :
    (d.put p content).isFile q = d.isFile q := by
  have hfilter (files : List (Place × Octets)) :
      (files.filter fun f => f.1 ≠ p).lookup q = files.lookup q := by
    induction files with
    | nil => rfl
    | cons f rest ih =>
      obtain ⟨r, stored⟩ := f
      by_cases hr : r = p
      · have hq : (q == r) = false := by simpa [hr] using h
        rw [List.filter_cons_of_neg (by simpa using hr), List.lookup_cons, hq, ih]
      · rw [List.filter_cons_of_pos (by simpa using hr), List.lookup_cons, List.lookup_cons, ih]
  have hq : (q == p) = false := beq_eq_false_iff_ne.mpr h
  rw [isFile, put, List.lookup_cons, hq, hfilter, isFile]

/-- A new file stands in the way of no walk that went somewhere, if no directory was there: only
directories are walked through. -/
theorem enter_put (h : d.isDirectory p = false) {name : Text} {r : Place}
    (he : d.enter q name = .ok r) : (d.put p content).enter q name = .ok r := by
  unfold enter at he ⊢
  split at he
  · cases he
  · next hfile =>
    split at he
    · cases he
    · next hdirectory =>
      have hne : q ≠ p := by
        rintro rfl
        exact hdirectory (by rw [h]; rfl)
      rw [isFile_put d content hne, if_neg hfile]
      change (if (!d.isDirectory q) = true then _ else _) = _
      rw [if_neg hdirectory]
      exact he

theorem walk_put (h : d.isDirectory p = false) {root : Root} {names : List Text} {r : Place}
    (hw : d.walk root names = .ok r) : (d.put p content).walk root names = .ok r := by
  unfold walk at hw ⊢
  generalize (⟨root, []⟩ : Place) = q at hw ⊢
  induction names generalizing q with
  | nil => exact hw
  | cons name names ih =>
    rw [List.foldlM_cons] at hw ⊢
    obtain ⟨next, hnext, hw⟩ := Outcome.exists_ok_of_bind hw
    rw [enter_put h hnext]
    exact ih next hw

theorem read_put {l : Location} (hfind : d.find l = .ok p) (h : d.isDirectory p = false) :
    (d.put p content).read l = .ok content := by
  have hput : (d.put p content).find l = .ok p := by
    unfold find at hfind ⊢
    split at hfind
    · cases hfind
    · next hlong => rw [if_neg hlong, walk_put h hfind]
  rw [read, hput]
  simp only [lookup_put]

theorem read_write {l : Location} (h : (d.write l content).2 = true) :
    (d.write l content).1.read l = .ok content := by
  unfold write at h ⊢
  split
  · next hmade =>
    rw [hmade] at h
    cases h
  · next made hmade =>
    rw [hmade] at h
    dsimp only at h ⊢
    cases hfind : made.find l with
    | error obstacle =>
      rw [hfind] at h
      cases h
    | ok p =>
      rw [hfind] at h
      dsimp only at h ⊢
      by_cases hp : made.isDirectory p = true
      · rw [if_pos hp] at h
        cases h
      · rw [if_neg hp]
        exact read_put hfind (Bool.eq_false_iff.mpr hp)

def single (name : Text) (content : Octets) : Disk := ⟨[(⟨.working, [name]⟩, content)], []⟩

end RemoteShell.Disk
