import Mathlib
import RemoteShell.Proofs.History.Cursor
import RemoteShell.Proofs.Json.Stored

set_option autoImplicit false

namespace RemoteShell.History

def listed : Value → List Text
  | .list items =>
    items.filterMap fun v =>
      match v with
      | .text s => some s.toText
      | _ => none
  | _ => []

/-- The entries that a content records: those listed under the key of an object. -/
def recorded (content : Octets) : List Text :=
  match Utf8.strict content with
  | .error _ => []
  | .ok text =>
    match Json.read text with
    | .ok (.map fields) => listed ((Assoc.get? key fields).getD (.list []))
    | _ => []

/-- A load of a file with some content that goes as it should: nothing is raised, the cursor is at
the line being typed, and the entries are the latest that the content records. -/
def Restores (h : History) (file : Location) (d : Disk) (content : Octets) : Prop :=
  ∃ loaded, h.load (some file) d = (loaded, none) ∧ loaded.offset = 0 ∧
    loaded.entries = keep h.maxEntries (recorded content)

def KeepsNone (limit : Option Int) : Prop := ∃ n ≤ 0, limit = some n

/-- Values under the key that give the entries they list: lists, and what has no members that would
be kept. -/
def Harmless (limit : Option Int) : Value → Prop
  | .list _ => True
  | .text s => s = [] ∨ KeepsNone limit
  | .map fields => fields = [] ∨ KeepsNone limit
  | .null | .bool _ | .int _ | .real _ => False

theorem keep_eq_nil_iff {limit : Option Int} {entries : List Text} :
    keep limit entries = [] ↔ entries = [] ∨ KeepsNone limit := by
  cases limit with
  | none => exact ⟨.inl, fun h => h.resolve_right fun ⟨_, _, hn⟩ => nomatch hn⟩
  | some n =>
    rw [keep, List.drop_eq_nil_iff, ← List.length_eq_zero_iff]
    constructor
    · intro h
      by_cases hn : n ≤ 0
      · exact .inr ⟨n, hn, rfl⟩
      · exact .inl (by omega)
    · rintro (h | ⟨m, hm, hn⟩)
      · omega
      · cases hn
        omega

theorem exists_keep_iff {limit : Option Int} {v : Value} {ss : List Points}
    (h : v.members? = some (ss.map .text)) (hlisted : listed v = []) :
    (∃ taken, texts v = .ok taken ∧ keep limit taken = keep limit (listed v)) ↔
      ss = [] ∨ KeepsNone limit := by
  rw [hlisted, keep_nil, ← List.map_eq_nil_iff (f := Points.toText), ← keep_eq_nil_iff, texts_eq h]
  constructor
  · rintro ⟨taken, htaken, hkeep⟩
    cases htaken
    exact hkeep
  · exact fun hkeep => ⟨_, rfl, hkeep⟩

theorem harmless_iff {limit : Option Int} {v : Value} :
    Harmless limit v ↔
      ∃ entries, texts v = .ok entries ∧ keep limit entries = keep limit (listed v) := by
  cases v with
  | null | bool | int | real => exact ⟨False.elim, fun ⟨_, h, _⟩ => nomatch h⟩
  | list items => exact ⟨fun _ => ⟨_, rfl, rfl⟩, fun _ => trivial⟩
  | text s =>
    have hmembers : (Value.text s).members? = some ((s.map fun p => [p]).map .text) := by
      rw [List.map_map]
      rfl
    rw [exists_keep_iff hmembers rfl, List.map_eq_nil_iff, Harmless]
  | map fields =>
    have hmembers : (Value.map fields).members? = some ((fields.map Prod.fst).map .text) := by
      rw [List.map_map]
      rfl
    rw [exists_keep_iff hmembers rfl, List.map_eq_nil_iff, Harmless]

theorem recorded_of_document {content : Octets} {fields : Value.Fields}
    (h : Json.IsDocument content (.map fields)) :
    recorded content = listed ((Assoc.get? key fields).getD (.list [])) := by
  obtain ⟨text, htext, hread⟩ := h
  simp only [recorded, htext, hread]

theorem recorded_of_none {content : Octets}
    (h : ∀ fields, ¬Json.IsDocument content (.map fields)) : recorded content = [] := by
  unfold recorded
  split
  · rfl
  · next text htext =>
    split
    · next fields hread => exact absurd ⟨text, htext, hread⟩ (h fields)
    · rfl

/-- Parsing gives the recorded entries, as far as they are kept, from a content that can be read and
has no harmful value under the key. -/
theorem exists_parse_iff {limit : Option Int} {content : Octets} :
    (∃ entries, parse content = .ok entries ∧ keep limit entries = keep limit (recorded content)) ↔
      Json.IsReadable content ∧ ∀ fields v, Json.IsDocument content (.map fields) →
        Assoc.get? key fields = some v → Harmless limit v := by
  by_cases hobject : ∃ fields, Json.IsDocument content (.map fields)
  · obtain ⟨fields, hfields⟩ := hobject
    rw [parse, Json.object?_eq_some_iff.mpr hfields, recorded_of_document hfields]
    dsimp only
    rw [← harmless_iff]
    constructor
    · intro h
      refine ⟨hfields.isReadable, fun fields' v hfields' hv => ?_⟩
      cases hfields.unique hfields'
      rwa [hv] at h
    · rintro ⟨-, h⟩
      cases hv : Assoc.get? key fields with
      | none => trivial
      | some v => exact h fields v hfields hv
  · have hnone : ∀ fields, ¬Json.IsDocument content (.map fields) := not_exists.mp hobject
    rw [recorded_of_none hnone]
    constructor
    · rintro ⟨entries, hparse, -⟩
      refine ⟨?_, fun fields _ hfields => absurd hfields (hnone fields)⟩
      unfold parse at hparse
      split at hparse
      · cases hparse
      all_goals next hfound => exact Json.exists_object?_iff.mp ⟨_, hfound⟩
    · rintro ⟨hreadable, -⟩
      refine ⟨[], ?_, rfl⟩
      rw [parse, Json.object?_eq_none_iff.mpr ⟨hreadable, hnone⟩]

/-- A file is loaded as it should exactly when its content is UTF-8, no integer in it is too long to
be read, and what an object has under the key, if anything, is a list or has no member that would be
kept. -/
theorem restores_iff {h : History} {file : Location} {d : Disk} {content : Octets}
    (hread : d.read file = .ok content) :
    h.Restores file d content ↔
      Json.IsReadable content ∧ ∀ fields v, Json.IsDocument content (.map fields) →
        Assoc.get? key fields = some v → Harmless h.maxEntries v := by
  rw [← exists_parse_iff]
  unfold Restores load
  simp only [Option.map_some, hread]
  cases hparse : parse content with
  | error fault =>
    constructor
    · rintro ⟨loaded, hload, -⟩
      cases hload
    · rintro ⟨entries, hentries, -⟩
      cases hentries
  | ok entries =>
    constructor
    · rintro ⟨loaded, hload, -, hkeep⟩
      cases hload
      exact ⟨entries, rfl, hkeep⟩
    · rintro ⟨entries', hentries, hkeep⟩
      cases hentries
      exact ⟨_, rfl, rfl, hkeep⟩

/-- The log of a history gets from a load what the content of the file records. -/
theorem keep_found {limit : Option Int} {file : Location} {d : Disk} {content : Octets}
    (hread : d.read file = .ok content) (hreadable : Json.IsReadable content)
    (hharmless : ∀ fields v, Json.IsDocument content (.map fields) →
      Assoc.get? key fields = some v → Harmless limit v) :
    keep limit (found (some file) d) = keep limit (recorded content) := by
  obtain ⟨entries, hparse, hkeep⟩ := exists_parse_iff.mpr ⟨hreadable, hharmless⟩
  rw [← hkeep, found, Option.map_some, hread]
  dsimp only
  rw [hparse]
  rfl

def mixedText : Text := "\x7b\"n\": -1, \"history\": [\"ls\", 7, \"pwd\", null]\x7d".toList

theorem isDocument_mixedText : Json.IsDocument (Utf8.encode mixedText)
    (.map [("n".toList, .int (-1)),
      (key, .list [.text "ls".toList, .int 7, .text "pwd".toList, .null])]) :=
  ⟨mixedText, Utf8.strict_encode mixedText, by cbv⟩

theorem restores_mixed :
    (empty (some 1)).Restores (.given "h.json".toList)
      (.single "h.json".toList (Utf8.encode mixedText)) (Utf8.encode mixedText) := by
  have hread (content : Octets) :
      (Disk.single "h.json".toList content).read (.given "h.json".toList) = .ok content := rfl
  refine (restores_iff (hread _)).mpr
    ⟨isDocument_mixedText.isReadable, fun fields v hfields hv => ?_⟩
  cases isDocument_mixedText.unique hfields
  cases hv
  trivial

/-- One octet that is no UTF-8 is not taken for an empty history. -/
theorem not_restores_octet : ¬∀ (h : History) (file : Location) (d : Disk) (content : Octets),
    d.read file = .ok content → h.Restores file d content := by
  intro hall
  obtain ⟨loaded, hload, -⟩ := hall (empty none) (.given "h.json".toList)
    (.single "h.json".toList [0xFF]) [0xFF] rfl
  cases hload

end RemoteShell.History
