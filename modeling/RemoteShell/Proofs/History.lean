import RemoteShell.History.File
import RemoteShell.Proofs.Disk
import RemoteShell.Proofs.Json.Pretty
import RemoteShell.Proofs.Json.Stored
import RemoteShell.Proofs.Text.Utf8

set_option autoImplicit false

namespace RemoteShell.History

theorem keep_nil (limit : Option Int) : keep limit [] = [] := by
  cases limit with
  | none => rfl
  | some n => exact List.drop_nil

theorem keep_append_keep (limit : Option Int) (xs ys : List Text) :
    keep limit (keep limit xs ++ ys) = keep limit (xs ++ ys) := by
  cases limit with
  | none => rfl
  | some n =>
    simp only [keep]
    by_cases hx : xs.length ≤ n.toNat
    · rw [Nat.sub_eq_zero_of_le hx, List.drop_zero]
    · have hdrop : (xs.drop (xs.length - n.toNat) ++ ys) =
          (xs ++ ys).drop (xs.length - n.toNat) :=
        (List.drop_append_of_le_length (Nat.sub_le _ _)).symm
      rw [hdrop, List.drop_drop, List.length_drop, List.length_append]
      congr 1
      omega

theorem keep_keep (limit : Option Int) (xs : List Text) :
    keep limit (keep limit xs) = keep limit xs := by
  have h := keep_append_keep limit xs []
  rwa [List.append_nil, List.append_nil] at h

/-- A log that was trimmed after its last change. -/
def IsTrim (h : History) : Prop := keep h.maxEntries h.entries = h.entries

theorem foldl_append {h : History} (ht : h.IsTrim) (lines : List Text) :
    (lines.foldl append h).entries = keep h.maxEntries (h.entries ++ lines) ∧
      (lines.foldl append h).isDirty = (h.isDirty || !lines.isEmpty) := by
  induction lines generalizing h with
  | nil => exact ⟨by rw [List.append_nil, ht]; rfl, (Bool.or_false _).symm⟩
  | cons line lines ih =>
    have hnext : (h.append line).IsTrim := keep_keep _ _
    obtain ⟨hentries, hdirty⟩ := ih hnext
    refine ⟨?_, ?_⟩
    · rw [List.foldl_cons, hentries, append, keep_append_keep, List.append_assoc]
      rfl
    · rw [List.foldl_cons, hdirty, append, Bool.true_or, List.isEmpty_cons, Bool.not_false,
        Bool.or_true]

/-- What a file of entries is: a JSON object with the list of them under its key. -/
def Lists (content : Octets) (entries : List Text) : Prop :=
  ∃ fields, Json.IsDocument content (.map fields) ∧
    Assoc.get? key fields = some (.list (entries.map Value.ofText))

/-- The entries that a disk has for a location: those of a file, or none without one. -/
def Holds (d : Disk) (l : Location) (entries : List Text) : Prop :=
  (∃ content, d.read l = .ok content ∧ Lists content entries) ∨
    (∃ obstacle, d.read l = .error obstacle ∧ obstacle ≠ .longName) ∧ entries = []

theorem texts_eq {v : Value} {ss : List Points} (h : v.members? = some (ss.map .text)) :
    texts v = .ok (ss.map Points.toText) := by
  unfold texts
  simp only [h]
  rw [List.filterMap_map, ← List.filterMap_eq_map]
  rfl

theorem texts_list (entries : List Text) :
    texts (.list (entries.map Value.ofText)) = .ok entries := by
  have hmembers : (Value.list (entries.map Value.ofText)).members? =
      some ((entries.map Points.ofText).map .text) := by
    rw [List.map_map]
    rfl
  rw [texts_eq hmembers, List.map_map]
  exact congrArg Except.ok ((List.map_congr_left fun s _ => Points.toText_ofText s).trans
    (List.map_id entries))

theorem parse_of_lists {content : Octets} {entries : List Text} (h : Lists content entries) :
    parse content = .ok entries := by
  obtain ⟨fields, hdocument, hentries⟩ := h
  rw [parse, Json.object?_eq_some_iff.mpr hdocument]
  simp only [hentries, Option.getD_some, texts_list]

theorem lists_fileText (entries : List Text) : Lists (Utf8.encode (fileText entries)) entries := by
  refine ⟨[(key, .list (entries.map Value.ofText))], ⟨_, Utf8.strict_encode _, ?_⟩, if_pos rfl⟩
  have hbare : Json.read (fileText entries) = Json.readBare (fileText entries) := rfl
  rw [hbare, Json.readBare, fileText, document, Json.document_pretty]
  rfl

theorem load_of_holds {d : Disk} {l : Location} {entries : List Text} (h : Holds d l entries)
    (limit : Option Int) :
    (empty limit).load (some l) d =
      (⟨limit, keep limit entries, 0, (keep limit entries).length < entries.length⟩, none) := by
  rcases h with ⟨content, hread, hlists⟩ | ⟨⟨obstacle, hread, hname⟩, rfl⟩
  · simp only [load, Option.map_some, hread, parse_of_lists hlists]
    rfl
  · simp only [load, Option.map_some, hread, keep_nil]
    cases obstacle with
    | longName => exact absurd rfl hname
    | missing | notDirectory | isDirectory => rfl

/-- The entries of a file are loaded, lines are added, and the history is saved: loaded again, it
has the latest of all these. The file itself may have more. -/
theorem holds_save {d : Disk} {l : Location} {entries : List Text} (h : Holds d l entries)
    {limit : Option Int} {loaded : History}
    (hload : (empty limit).load (some l) d = (loaded, none))
    (hwrite : ∀ content, (d.write l content).2 = true) (lines : List Text) :
    ∃ stored, Holds ((lines.foldl append loaded).save (some l) d).2 l stored ∧
      keep limit stored = keep limit (entries ++ lines) := by
  rw [load_of_holds h] at hload
  cases hload
  have htrim : IsTrim ⟨limit, keep limit entries, 0,
      (keep limit entries).length < entries.length⟩ := keep_keep limit entries
  obtain ⟨hentries, hdirty⟩ := foldl_append htrim lines
  dsimp only at hentries hdirty
  rw [keep_append_keep] at hentries
  unfold save
  dsimp only
  split
  · refine ⟨keep limit (entries ++ lines), .inl ⟨_, Disk.read_write (hwrite _), ?_⟩, keep_keep _ _⟩
    rw [hentries]
    exact lists_fileText _
  -- Nothing was dropped and no line came in, so the file is as good as it was.
  · next hclean =>
    rw [hdirty, Bool.or_eq_true, not_or] at hclean
    obtain rfl : lines = [] := by simpa using hclean.2
    refine ⟨entries, h, by rw [List.append_nil]⟩

end RemoteShell.History
