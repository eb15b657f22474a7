import RemoteShell.Text

set_option autoImplicit false

namespace RemoteShell

/-- A log of at most `maxEntries` lines; a limit below zero counts as zero. A dirty log has changes
that are not saved. -/
structure History where
  maxEntries : Option Int
  entries : List Text
  offset : Nat
  isDirty : Bool

namespace History

def empty (maxEntries : Option Int) : History := ⟨maxEntries, [], 0, false⟩

def keep (maxEntries : Option Int) (entries : List Text) : List Text :=
  match maxEntries with
  | none => entries
  | some n => entries.drop (entries.length - n.toNat)

def append (h : History) (line : Text) : History :=
  { h with entries := keep h.maxEntries (h.entries ++ [line]), offset := 0, isDirty := true }

def selected (h : History) : Option Text :=
  if 0 < h.offset ∧ h.offset ≤ h.entries.length then h.entries[h.entries.length - h.offset]?
  else none

def previous (h : History) : History := { h with offset := min (h.offset + 1) h.entries.length }

def next (h : History) : History := { h with offset := h.offset - 1 }

end History

end RemoteShell
