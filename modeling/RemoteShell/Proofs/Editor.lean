import RemoteShell.Editor
import RemoteShell.Proofs.History.Cursor

set_option autoImplicit false

namespace RemoteShell

open History (Action Follows IsLatest Log)

namespace History

theorem IsLatest.append_iff {limit : Option Int} {lines entries more later : List Text}
    (h : IsLatest limit lines entries) :
    IsLatest limit (entries ++ more) later ↔ IsLatest limit (lines ++ more) later := by
  rw [isLatest_iff, isLatest_iff, isLatest_iff.mp h, keep_append_keep]

theorem selected_eq_reverse {h : History} (hinside : h.offset ≤ h.entries.length)
    (hpos : 0 < h.offset) : h.selected = h.entries.reverse[h.offset - 1]? := by
  rw [selected_eq hinside, if_neg (Nat.ne_of_gt hpos), List.getElem?_reverse (by omega)]
  congr 1
  omega

end History

namespace Editor

def pressAll (e : Editor) (keys : List Key) : Editor := keys.foldl press e

/-- The lines that were recorded, each as it stood when its key was pressed. -/
def recorded (e : Editor) : List Key → List Text
  | [] => []
  | .record :: keys => e.text :: recorded (e.press .record) keys
  | key :: keys => recorded (e.press key) keys

theorem recorded_cons (e : Editor) (key : Key) (keys : List Key) :
    e.recorded (key :: keys) = e.recorded [key] ++ (e.press key).recorded keys := by
  cases key <;> rfl

variable {e : Editor} {limit : Option Int} {g : Log}

theorem history_browse (e : Editor) (history : History) : (e.browse history).history = history := by
  unfold browse
  split <;> rfl

theorem history_press_up (e : Editor) : (e.press .up).history = e.history.previous :=
  history_browse _ _

theorem history_press_down (e : Editor) : (e.press .down).history = e.history.next :=
  history_browse _ _

/-- What an action on the history makes of its log is what the key makes of it. -/
theorem follows_press (hf : Follows limit e.history g) (key : Key) :
    ∃ g' : Log, Follows limit (e.press key).history g' ∧ g'.lines = g.lines ++ e.recorded [key] := by
  have hact (a : Action) : Follows limit (e.history.act none a).1 (g.act limit none a) := hf.act a
  cases key with
  | up =>
    rw [history_press_up]
    exact ⟨_, hact .previous, (List.append_nil _).symm⟩
  | down =>
    rw [history_press_down]
    exact ⟨_, hact .next, (List.append_nil _).symm⟩
  | record => exact ⟨_, hact (.append e.text), rfl⟩
  | type text => exact ⟨g, hf, (List.append_nil _).symm⟩
  | replace text => exact ⟨g, hf, (List.append_nil _).symm⟩

/-- A line after browsing: the entry that is so far from the latest one, with the cursor at its end,
or else the line and the cursor that there were. -/
structure Shows (e after : Editor) : Prop where
  entry : 0 < after.history.offset →
    after.history.entries.reverse[after.history.offset - 1]? = some after.text ∧
      after.cursor = after.text.length
  line : after.history.offset = 0 → after.text = e.text ∧ after.cursor = e.cursor

theorem shows_browse (e : Editor) {history : History}
    (hinside : history.offset ≤ history.entries.length) : Shows e (e.browse history) := by
  have hnone := History.selected_eq_none_iff hinside
  unfold browse
  split
  · next entry hentry =>
    refine ⟨fun hpos => ⟨?_, rfl⟩, fun hzero => ?_⟩
    · rw [← History.selected_eq_reverse hinside hpos, hentry]
    · rw [hnone.mpr hzero] at hentry
      cases hentry
  · next hentry => exact ⟨fun hpos => absurd (hnone.mp hentry) (Nat.ne_of_gt hpos),
      fun _ => ⟨rfl, rfl⟩⟩

/-- What a key may do to the line and to the history. -/
def Answers (e : Editor) : Key → Editor → Prop
  | .up, after => after.history.entries = e.history.entries ∧
      after.history.offset = min (e.history.offset + 1) e.history.entries.length ∧ Shows e after
  | .down, after => after.history.entries = e.history.entries ∧
      after.history.offset = e.history.offset - 1 ∧ Shows e after
  | .record, after => after.text = [] ∧ after.cursor = 0 ∧ after.history.offset = 0
  | .type text, after => after.history = e.history ∧
      ∀ before behind, e.text = before ++ behind → e.cursor = before.length →
        after.text = before ++ text ++ behind ∧ after.cursor = (before ++ text).length
  | .replace text, after => after.history = e.history ∧ after.text = text

theorem insert_between (e : Editor) (text : Text) {before behind : Text}
    (htext : e.text = before ++ behind) (hcursor : e.cursor = before.length) :
    (e.insert text).text = before ++ text ++ behind ∧
      (e.insert text).cursor = (before ++ text).length := by
  constructor
  · change e.text.take e.cursor ++ text ++ e.text.drop e.cursor = _
    rw [htext, hcursor, List.take_left, List.drop_left]
  · change e.cursor + text.length = _
    rw [hcursor, List.length_append]

theorem answers_press (hinside : e.history.offset ≤ e.history.entries.length) (key : Key) :
    Answers e key (e.press key) := by
  cases key with
  | up =>
    have hhistory := history_press_up e
    refine ⟨?_, ?_, shows_browse e (Nat.min_le_right _ _)⟩
    · rw [hhistory]; rfl
    · rw [hhistory]; rfl
  | down =>
    have hhistory := history_press_down e
    refine ⟨?_, ?_, shows_browse e (Nat.le_trans (Nat.sub_le _ _) hinside)⟩
    · rw [hhistory]; rfl
    · rw [hhistory]; rfl
  | record => exact ⟨rfl, rfl, rfl⟩
  | type text => exact ⟨rfl, fun before behind => insert_between e text⟩
  | replace text => exact ⟨rfl, rfl⟩

theorem follows_pressAll (hf : Follows limit e.history g) (keys : List Key) :
    ∃ g' : Log, Follows limit (e.pressAll keys).history g' ∧
      g'.lines = g.lines ++ e.recorded keys := by
  induction keys generalizing e g with
  | nil => exact ⟨g, hf, (List.append_nil _).symm⟩
  | cons key keys ih =>
    obtain ⟨g₁, hf₁, hlines₁⟩ := follows_press hf key
    obtain ⟨g₂, hf₂, hlines₂⟩ := ih hf₁
    refine ⟨g₂, hf₂, ?_⟩
    rw [hlines₂, hlines₁, recorded_cons e key keys, List.append_assoc]

/-- A line is typed over a history that was used before in any way. After any keys the entries are
the latest, as many as the limit allows, of those before and of the lines recorded, both cursors are
where they can be, and the next key changes no more than it may. -/
theorem keys_follow_log (limit : Option Int) (file : Option Location) (used : List Action)
    (line : Editor) (keys : List Key) :
    let first : Editor := { line with history := History.run file (History.empty limit) used }
    let e := first.pressAll keys
    IsLatest limit (first.history.entries ++ first.recorded keys) e.history.entries ∧
      e.history.offset ≤ e.history.entries.length ∧ e.cursor ≤ e.text.length ∧
      ∀ key, Answers e key (e.press key) := by
  intro first e
  have hfirst : Follows limit first.history _ := History.follows_run limit file used
  obtain ⟨g, hf, hlines⟩ := follows_pressAll hfirst keys
  have hlatest := hf.latest
  rw [hlines] at hlatest
  exact ⟨hfirst.latest.append_iff.mpr hlatest, hf.inside, e.cursor_le, answers_press hf.inside⟩

/-- An entry that is recalled and changed is recorded as a new line; the oldest one makes room. -/
example :
    let first : Editor := ⟨History.run none (.empty (some 2)) [.append ['a'], .append ['b']], [], 0,
      Nat.le_refl _⟩
    let e := first.pressAll [.up, .type ['!'], .record, .up, .up]
    e.history.entries = [['b'], ['b', '!']] ∧ e.text = ['b'] := by decide

end Editor

end RemoteShell
