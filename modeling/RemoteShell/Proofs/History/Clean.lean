import RemoteShell.Proofs.History.Cursor

set_option autoImplicit false

namespace RemoteShell.History

/-- A save of changes that a disk does not take. -/
def Fails (file : Option Location) (h : History) (d : Disk) : Prop :=
  ∃ l, file = some l ∧ h.isDirty = true ∧
    (d.write l (Utf8.encode (fileText h.entries))).2 = false

def Loads (file : Option Location) (d : Disk) : Prop := ((empty none).load file d).2 = none

def HasSame (file : Option Location) (d e : Disk) : Prop := ∀ l, file = some l → d.read l = e.read l

/-- A history in use, from its first load on, and the disk as it is then. What others do on the disk
leaves the file as it is. A save that fails found some disk that refused it, and leaves the one that
there was in a way that `left` allows. -/
inductive Used (limit : Option Int) (file : Option Location) (left : Disk → Disk → Prop) :
    History → Disk → Prop where
  | first {h : History} {d : Disk} : (empty limit).load file d = (h, none) → Used limit file left h d
  | append {h : History} {d : Disk} (line : Text) :
      Used limit file left h d → Used limit file left (h.append line) d
  | previous {h : History} {d : Disk} :
      Used limit file left h d → Used limit file left h.previous d
  | next {h : History} {d : Disk} : Used limit file left h d → Used limit file left h.next d
  | load {h : History} {d : Disk} :
      Used limit file left h d → Used limit file left (h.load file d).1 d
  | save {h : History} {d : Disk} : Used limit file left h d → ¬Fails file h d →
      Used limit file left (h.save file d).1 (h.save file d).2
  | failedSave {h : History} {d e : Disk} (found : Disk) : Used limit file left h d →
      Fails file h found → left d e → Used limit file left (h.save file found).1 e
  | elsewhere {h : History} {d e : Disk} :
      Used limit file left h d → HasSame file e d → Used limit file left h e

variable {limit : Option Int} {file : Option Location} {left : Disk → Disk → Prop} {h : History}
  {d e : Disk}

/-- What a history had before makes no difference to a load. -/
theorem load_eq_load_empty (h : History) (file : Option Location) (d : Disk) :
    h.load file d = (empty h.maxEntries).load file d := rfl

theorem load_congr (hsame : HasSame file d e) : h.load file d = h.load file e := by
  unfold load
  cases file with
  | none => rfl
  | some l => rw [Option.map_some, Option.map_some, hsame l rfl]

theorem loads_iff (limit : Option Int) : Loads file d ↔ ((empty limit).load file d).2 = none := by
  unfold Loads load
  split
  · exact Iff.rfl
  · exact Iff.rfl
  · exact Iff.rfl
  · next content _ => cases parse content <;> exact Iff.rfl

theorem save_of_clean (hclean : h.isDirty = false) (d : Disk) : h.save file d = (h, d) := by
  unfold save
  split
  · rfl
  · rw [hclean]
    rfl

theorem save_of_fails (hfails : Fails file h d) : (h.save file d).1 = h := by
  obtain ⟨l, rfl, hdirty, hwrite⟩ := hfails
  unfold save
  simp only [hdirty, if_true, hwrite, Bool.not_false]
  rw [← hdirty]

theorem save_cases (hfine : ¬Fails file h d) :
    h.save file d = (h, d) ∨ ∃ l, file = some l ∧
      (h.save file d).1 = { h with isDirty := false } ∧ Holds (h.save file d).2 l h.entries := by
  cases hdirty : h.isDirty with
  | false => exact .inl (save_of_clean hdirty d)
  | true =>
    cases file with
    | none => exact .inl rfl
    | some l =>
      have hwrite : (d.write l (Utf8.encode (fileText h.entries))).2 = true :=
        Bool.of_not_eq_false fun hfalse => hfine ⟨l, rfl, hdirty, hfalse⟩
      refine .inr ⟨l, rfl, ?_⟩
      unfold save
      simp only [hdirty, if_true, hwrite, Bool.not_true]
      exact ⟨trivial, .inl ⟨_, Disk.read_write hwrite, lists_fileText _⟩⟩

/-- The entries are trimmed, and if they are not marked as changed the file gives back the history
but for its cursor. -/
structure Marked (limit : Option Int) (file : Option Location) (h : History) (d : Disk) : Prop where
  bound : h.maxEntries = limit
  trim : h.IsTrim
  stored : h.isDirty = false → ((empty limit).load file d).1 = { h with offset := 0 }

theorem marked_load (limit : Option Int) (file : Option Location) (d : Disk) :
    Marked limit file ((empty limit).load file d).1 d := by
  obtain ⟨hbound, hzero, hentries⟩ := load_found file (empty limit) d
  refine ⟨hbound, ?_, fun _ => ?_⟩
  · rw [IsTrim, hbound, hentries]
    exact keep_keep _ _
  · rw [← hzero]

theorem Marked.save (hm : Marked limit file h d) (hfine : ¬Fails file h d) :
    Marked limit file (h.save file d).1 (h.save file d).2 := by
  rcases save_cases hfine with hsame | ⟨l, rfl, hsaved, hholds⟩
  · rwa [hsame]
  · have htrim : keep limit h.entries = h.entries := hm.bound ▸ hm.trim
    refine ⟨?_, ?_, fun _ => ?_⟩
    · rw [hsaved, hm.bound]
    · rw [hsaved]
      exact hm.trim
    · rw [load_of_holds hholds, hsaved, htrim, hm.bound, decide_eq_false (Nat.lt_irrefl _)]

theorem Used.marked (hu : Used limit file left h d) : Marked limit file h d := by
  induction hu with
  | @first h d hload =>
    have hm := marked_load limit file d
    rwa [hload] at hm
  | append line _ ih => exact ⟨ih.bound, keep_keep _ _, nofun⟩
  | previous _ ih => exact ⟨ih.bound, ih.trim, ih.stored⟩
  | next _ ih => exact ⟨ih.bound, ih.trim, ih.stored⟩
  | @load h d _ ih =>
    rw [load_eq_load_empty, ih.bound]
    exact marked_load limit file d
  | save _ hfine ih => exact ih.save hfine
  | failedSave found _ hfails _ ih =>
    obtain ⟨l, hl, hdirty, hwrite⟩ := hfails
    rw [save_of_fails ⟨l, hl, hdirty, hwrite⟩]
    exact ⟨ih.bound, ih.trim, fun hclean => absurd (hclean.symm.trans hdirty) nofun⟩
  | elsewhere _ hsame ih => exact ⟨ih.bound, ih.trim, fun hclean =>
      (congrArg Prod.fst (load_congr hsame)).trans (ih.stored hclean)⟩

theorem Used.loads (hu : Used limit file left h d)
    (hleft : ∀ d e, left d e → Loads file d → Loads file e) : Loads file d := by
  induction hu with
  | first hload => exact (loads_iff limit).mpr (congrArg Prod.snd hload)
  | append _ _ ih | previous _ ih | next _ ih | load _ ih => exact ih
  | save _ hfine ih =>
    rcases save_cases hfine with hsame | ⟨l, rfl, -, hholds⟩
    · rwa [hsame]
    · exact congrArg Prod.snd (load_of_holds hholds none)
  | failedSave found _ _ hkept ih => exact hleft _ _ hkept ih
  | elsewhere _ hsame ih => exact (congrArg Prod.snd (load_congr hsame)).trans ih

/-- Whenever nothing is marked as changed, a new history that is loaded has the entries that this
one has, and a save leaves history and disk alone. A save that fails leaves the history alone. If
failing saves leave what can still be loaded, every load goes through. -/
theorem Used.clean_is_stored (hu : Used limit file left h d) :
    (h.isDirty = false → ((empty limit).load file d).1 = { h with offset := 0 } ∧
      ∀ e, h.save file e = (h, e)) ∧
    (∀ e, Fails file h e → (h.save file e).1 = h) ∧
    ((∀ d e, left d e → Loads file d → Loads file e) → ((empty limit).load file d).2 = none) :=
  ⟨fun hclean => ⟨hu.marked.stored hclean, save_of_clean hclean⟩, fun _ => save_of_fails,
    fun hleft => (loads_iff limit).mp (hu.loads hleft)⟩

def jsonFile : Location := .given "h.json".toList

def blocked : Disk := ⟨[], [⟨.working, ["h.json".toList]⟩]⟩

theorem clean_is_stored_refused :
    ∃ h d, Used (some 1) (some jsonFile) (HasSame (some jsonFile)) h d ∧ h.isDirty = false ∧
      h.offset = 1 ∧ (empty (some 1)).load (some jsonFile) d = (⟨some 1, [['c']], 0, false⟩, none) := by
  have hholds : Holds (.single "h.json".toList (Utf8.encode (fileText [['a'], ['b']]))) jsonFile
      [['a'], ['b']] := .inl ⟨_, rfl, lists_fileText _⟩
  have hfirst : Used (some 1) (some jsonFile) (HasSame (some jsonFile)) ⟨some 1, [['b']], 0, true⟩ _ :=
    .first (load_of_holds hholds (some 1))
  have hrefused := hfirst.failedSave blocked ⟨jsonFile, rfl, rfl, rfl⟩ fun _ _ => rfl
  have hsaved := (hrefused.append ['c']).save fun ⟨l, hl, _, hwrite⟩ => by
    cases hl
    cases hwrite
  have hu := hsaved.previous
  obtain ⟨hclean, -, hloads⟩ := hu.clean_is_stored
  refine ⟨_, _, hu, rfl, rfl, Prod.ext (hclean rfl).1 (hloads fun d e hsame hd => ?_)⟩
  exact (congrArg Prod.snd (load_congr hsame)).symm.trans hd

end RemoteShell.History
