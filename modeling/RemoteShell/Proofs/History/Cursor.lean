import RemoteShell.Proofs.History

set_option autoImplicit false

namespace RemoteShell.History

def room (limit : Option Int) (lines : List Text) : Nat :=
  limit.elim lines.length fun n => min n.toNat lines.length

structure IsLatest (limit : Option Int) (lines entries : List Text) : Prop where
  suffix : entries <:+ lines
  length : entries.length = room limit lines

theorem isLatest_iff {limit : Option Int} {lines entries : List Text} :
    IsLatest limit lines entries ↔ entries = keep limit lines := by
  have hlength : lines.length - room limit lines = limit.elim 0 fun n => lines.length - n.toNat := by
    cases limit with
    | none => exact Nat.sub_self _
    | some n => simp only [room, Option.elim_some]; omega
  have hkeep : keep limit lines = lines.drop (lines.length - room limit lines) := by
    rw [hlength]
    cases limit <;> rfl
  have hroom : room limit lines ≤ lines.length := by
    cases limit with
    | none => exact Nat.le_refl _
    | some n => exact Nat.min_le_right _ _
  rw [hkeep]
  constructor
  · rintro ⟨hsuffix, hentries⟩
    rw [← hentries]
    exact List.suffix_iff_eq_drop.mp hsuffix
  · rintro rfl
    refine ⟨List.drop_suffix _ _, ?_⟩
    rw [List.length_drop]
    omega

/-- What can be done with a history. A load and a save find some disk. -/
inductive Action where
  | append (line : Text)
  | previous
  | next
  | selected
  | load (d : Disk)
  | save (d : Disk)

def act (file : Option Location) (h : History) : Action → History × Option Text
  | .append line => (h.append line, none)
  | .previous => (h.previous, h.previous.selected)
  | .next => (h.next, h.next.selected)
  | .selected => (h, h.selected)
  | .load d => ((h.load file d).1, none)
  | .save d => ((h.save file d).1, none)

def run (file : Option Location) (h : History) (actions : List Action) : History :=
  actions.foldl (fun h a => (h.act file a).1) h

/-- The texts that a load finds. There are none without a file and where none can be read. -/
def found (file : Option Location) (d : Disk) : List Text :=
  match file.map d.read with
  | some (.ok content) => (parse content).toOption.getD []
  | _ => []

/-- The texts of the latest load with all lines added since, and how far back the cursor is. -/
structure Log where
  lines : List Text
  cursor : Nat

def Log.empty : Log := ⟨[], 0⟩

def Log.act (limit : Option Int) (file : Option Location) (g : Log) : Action → Log
  | .append line => ⟨g.lines ++ [line], 0⟩
  | .previous => { g with cursor := min (g.cursor + 1) (room limit g.lines) }
  | .next => { g with cursor := g.cursor - 1 }
  | .selected | .save _ => g
  | .load d => ⟨found file d, 0⟩

def Log.run (limit : Option Int) (file : Option Location) (actions : List Action) : Log :=
  actions.foldl (Log.act limit file) .empty

structure Follows (limit : Option Int) (h : History) (g : Log) : Prop where
  bound : h.maxEntries = limit
  latest : IsLatest limit g.lines h.entries
  offset : h.offset = g.cursor
  inside : h.offset ≤ h.entries.length

variable {limit : Option Int} {file : Option Location} {h : History} {g : Log}

theorem follows_empty (limit : Option Int) : Follows limit (empty limit) .empty where
  bound := rfl
  latest := isLatest_iff.mpr (keep_nil limit).symm
  offset := rfl
  inside := Nat.le_refl 0

theorem load_found (file : Option Location) (h : History) (d : Disk) :
    (h.load file d).1.maxEntries = h.maxEntries ∧ (h.load file d).1.offset = 0 ∧
      (h.load file d).1.entries = keep h.maxEntries (found file d) := by
  have hcleared : h.cleared.maxEntries = h.maxEntries ∧ h.cleared.offset = 0 ∧
      h.cleared.entries = keep h.maxEntries [] := ⟨rfl, rfl, (keep_nil _).symm⟩
  unfold load found
  cases file with
  | none => exact hcleared
  | some l =>
    rw [Option.map_some, Option.map_some]
    dsimp only
    cases d.read l with
    | error obstacle => cases obstacle <;> exact hcleared
    | ok content =>
      dsimp only
      cases parse content with
      | error fault => exact hcleared
      | ok entries => exact ⟨rfl, rfl, rfl⟩

theorem save_kept (file : Option Location) (h : History) (d : Disk) :
    (h.save file d).1 = { h with isDirty := (h.save file d).1.isDirty } := by
  unfold save
  cases file with
  | none => rfl
  | some l =>
    dsimp only
    split <;> rfl

theorem Follows.act (hf : Follows limit h g) (a : Action) :
    Follows limit (h.act file a).1 (g.act limit file a) := by
  obtain ⟨hbound, hlatest, hoffset, hinside⟩ := hf
  cases a with
  | append line =>
    refine ⟨hbound, isLatest_iff.mpr ?_, rfl, Nat.zero_le _⟩
    rw [isLatest_iff] at hlatest
    -- what was dropped before would be dropped now
    simp only [History.act, History.append, Log.act, hbound, hlatest, keep_append_keep]
  | previous =>
    refine ⟨hbound, hlatest, ?_, Nat.min_le_right _ _⟩
    simp only [History.act, History.previous, Log.act, hoffset, hlatest.length]
  | next =>
    refine ⟨hbound, hlatest, ?_, Nat.le_trans (Nat.sub_le _ _) hinside⟩
    simp only [History.act, History.next, Log.act, hoffset]
  | selected => exact ⟨hbound, hlatest, hoffset, hinside⟩
  | load d =>
    obtain ⟨hsame, hzero, hentries⟩ := load_found file h d
    refine ⟨hsame.trans hbound, isLatest_iff.mpr (hbound ▸ hentries), hzero, ?_⟩
    exact hzero.symm ▸ Nat.zero_le _
  | save d =>
    rw [History.act, save_kept]
    exact ⟨hbound, hlatest, hoffset, hinside⟩

theorem follows_run (limit : Option Int) (file : Option Location) (actions : List Action) :
    Follows limit (run file (empty limit) actions) (Log.run limit file actions) := by
  have hrun (h : History) (g : Log) (hf : Follows limit h g) :
      Follows limit (run file h actions) (actions.foldl (Log.act limit file) g) := by
    induction actions generalizing h g with
    | nil => exact hf
    | cons a actions ih => exact ih _ _ (hf.act a)
  exact hrun _ _ (follows_empty limit)

theorem selected_eq (hinside : h.offset ≤ h.entries.length) :
    h.selected =
      if h.offset = 0 then none else h.entries[h.entries.length - h.offset]? := by
  unfold selected
  by_cases hzero : h.offset = 0
  · rw [if_pos hzero, if_neg fun hin => absurd hzero (Nat.ne_of_gt hin.1)]
  · rw [if_neg hzero, if_pos ⟨Nat.pos_of_ne_zero hzero, hinside⟩]

theorem selected_eq_none_iff (hinside : h.offset ≤ h.entries.length) :
    h.selected = none ↔ h.offset = 0 := by
  rw [selected_eq hinside]
  by_cases hzero : h.offset = 0
  · simp [hzero]
  · simp only [hzero, if_false, List.getElem?_eq_none_iff, iff_false]
    omega

/-- The oldest entry is one that was kept. -/
example : (run none (empty (some 2)) [.append ['a'], .append ['b'], .append ['c'], .previous,
    .previous, .previous]).selected = some ['b'] := by decide

end RemoteShell.History
