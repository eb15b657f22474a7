import RemoteShell.History

set_option autoImplicit false

namespace RemoteShell

inductive Key where
  | up
  | down
  /-- The line is recorded without being run. -/
  | record
  | type (text : Text)
  | replace (text : Text)
  deriving DecidableEq, Repr

structure Editor where
  history : History
  text : Text
  cursor : Nat
  cursor_le : cursor ≤ text.length := by simp

namespace Editor

/-- An entry takes the place of the text with the cursor at its end; without one the text stays. -/
def browse (e : Editor) (history : History) : Editor :=
  match history.selected with
  | some entry => ⟨history, entry, entry.length, Nat.le_refl _⟩
  | none => { e with history := history }

def insert (e : Editor) (text : Text) : Editor where
  history := e.history
  text := e.text.take e.cursor ++ text ++ e.text.drop e.cursor
  cursor := e.cursor + text.length
  cursor_le := by
    have := e.cursor_le
    simp only [List.length_append, List.length_take, List.length_drop]
    omega

def press (e : Editor) : Key → Editor
  | .up => e.browse e.history.previous
  | .down => e.browse e.history.next
  | .record => ⟨e.history.append e.text, [], 0, Nat.le_refl _⟩
  | .type text => e.insert text
  | .replace text => ⟨e.history, text, min e.cursor text.length, Nat.min_le_right _ _⟩

end Editor

end RemoteShell
