import RemoteShell.Program
import RemoteShell.Proofs.History
import RemoteShell.Proofs.Interactive

set_option autoImplicit false

namespace RemoteShell.Program

open Interactive (Input)

variable {around : Surroundings} {r : Ready}

theorem load_of_start (h : start around = .ok r) :
    (History.empty (some r.settings.maxHistory)).load r.settings.historyFile around.disk =
      (r.history, none) := by
  obtain ⟨i, -, h⟩ := Outcome.exists_ok_of_bind h
  obtain ⟨s, -, h⟩ := Outcome.exists_ok_of_bind h
  unfold begin at h
  split at h
  · cases h
  · split at h
    · cases h
    · next history hload =>
      split at h
      · cases h
      · cases h
        exact hload

theorem start_of_parts {i : Invocation} {s : Settings} {number : Nat} {loaded : History}
    {base : Base} (hi : invocation around = .ok i) (hs : settings around i = .ok s)
    (hnumber : LogLevel.number s.logLevel = .ok number)
    (hload : (History.empty (some s.maxHistory)).load s.historyFile around.disk = (loaded, none))
    (hbase : Base.parse s.baseUrl = .ok base) :
    start around = .ok ⟨s, i.command.getD [], loaded, base⟩ := by
  have hbegin : begin around i s = .ok ⟨s, i.command.getD [], loaded, base⟩ := by
    unfold begin
    simp only [hnumber, hload, hbase]
  simp only [start, hi, hs, hbegin, bind, Except.bind, Outcome.mapError_ok]

def Ready.conversation (r : Ready) (around : Surroundings) (server : Server)
    (script : List Scripted) (inputs : List Input) : Interactive.Ended :=
  (r.interactive around.columns (r.session server script)).run around.columns inputs

theorem disk_run (h : start around = .ok r) (hlines : r.lines = []) (server : Server)
    (script : List Scripted) (inputs : List Input) :
    (run around server script inputs).disk =
      ((r.conversation around server script inputs).last.history.save r.settings.historyFile
        around.disk).2 := by
  unfold run
  rw [h]
  simp only [hlines, List.isEmpty_nil, if_true]
  rfl

/-- A start of the program at its prompt with a file for its history, in which nothing has changed
since another disk and into which it can write. -/
structure IsSitting (l : Location) (m : Nat) (since : Disk) (around : Surroundings) (r : Ready) :
    Prop where
  start : Program.start around = .ok r
  lines : r.lines = []
  file : r.settings.historyFile = some l
  limit : r.settings.maxHistory = m
  untouched : around.disk.read l = since.read l
  writable : ∀ content, (around.disk.write l content).2 = true

/-- Sessions from a first disk on, with the lines that they recorded and the disk after the last. -/
inductive Sessions (l : Location) (m : Nat) (first : Disk) : List Text → Disk → Prop where
  | nil : Sessions l m first [] first
  | concat {recorded : List Text} {d : Disk} {around : Surroundings} {r : Ready}
      (before : Sessions l m first recorded d) (h : IsSitting l m d around r) (server : Server)
      (script : List Scripted) (inputs : List Input) :
      Sessions l m first
        (recorded ++ (r.conversation around server script inputs).recorded inputs)
        (run around server script inputs).disk

variable {l : Location} {m : Nat} {first d : Disk} {entries recorded : List Text}

theorem holds_of_read {d e : Disk} (hread : d.read l = e.read l) (h : History.Holds e l entries) :
    History.Holds d l entries := by
  unfold History.Holds at h ⊢
  rwa [hread]

/-- What the file holds may be more than the limit, but its latest entries are those of all the
lines so far. -/
theorem Sessions.holds (h : Sessions l m first recorded d) (hfirst : History.Holds first l entries) :
    ∃ stored, History.Holds d l stored ∧
      History.keep (some m) stored = History.keep (some m) (entries ++ recorded) := by
  induction h with
  | nil => exact ⟨entries, hfirst, by rw [List.append_nil]⟩
  | @concat recorded d around r before hsitting server script inputs ih =>
    obtain ⟨stored, hstored, hkeep⟩ := ih
    -- What the session loads is cut to the limit, so only the latest of its entries are known.
    have hload := load_of_start hsitting.start
    rw [hsitting.file, hsitting.limit] at hload
    obtain ⟨after, hafter, hlatest⟩ := History.holds_save
      (holds_of_read hsitting.untouched hstored) hload hsitting.writable
      ((r.conversation around server script inputs).recorded inputs)
    refine ⟨after, ?_, ?_⟩
    · rw [disk_run hsitting.start hsitting.lines, hsitting.file]
      have hhistory := Interactive.history_run around.columns
        (r.interactive around.columns (r.session server script)) inputs
      unfold Ready.conversation at hafter ⊢
      rw [hhistory]
      exact hafter
    · rw [hlatest, ← History.keep_append_keep, hkeep, History.keep_append_keep, List.append_assoc]

/-- After any number of sessions the file loads, with the latest of the entries that it had before
the first and of all the lines that the sessions recorded, in their order. -/
theorem Sessions.load_eq (h : Sessions l m first recorded d)
    (hfirst : History.Holds first l entries) :
    ∃ isDirty, (History.empty (some m)).load (some l) d =
      (⟨some m, (entries ++ recorded).drop ((entries ++ recorded).length - m), 0, isDirty⟩, none) := by
  obtain ⟨stored, hstored, hkeep⟩ := h.holds hfirst
  rw [History.load_of_holds hstored, hkeep]
  exact ⟨_, rfl⟩

def narrow (d : Disk) : Surroundings := ⟨[], [("VFSH_MAX_HISTORY".toList, "2".toList)], 80, d⟩

def historyHome : Location := .home ".vfsh/history.json".toList

def remembering (entries : List Text) : Disk where
  files := [(⟨.home, ["history.json".toList, ".vfsh".toList]⟩,
    Utf8.encode (History.fileText entries))]
  directories := [⟨.home, [".vfsh".toList]⟩]

def narrowReady (entries : List Text) : Ready where
  settings := { Settings.defaults with maxHistory := 2 }
  lines := []
  history := ⟨some 2, entries, 0, false⟩
  base := ⟨"http".toList, ⟨[], "localhost".toList, some 8080⟩, ['/'], none⟩

theorem settings_narrow (entries : List Text) :
    settings (narrow (remembering entries)) ⟨none, none, none, none, false, none⟩ =
      .ok (narrowReady []).settings := rfl

theorem isSitting_narrow {since : Disk} {entries : List Text} (hlength : entries.length ≤ 2)
    (huntouched : (remembering entries).read historyHome = since.read historyHome) :
    IsSitting historyHome 2 since (narrow (remembering entries)) (narrowReady entries) where
  start := by
    have hholds : History.Holds (remembering entries) historyHome entries :=
      .inl ⟨_, rfl, History.lists_fileText entries⟩
    have hkeep : History.keep (some (2 : Nat)) entries = entries := by
      change entries.drop (entries.length - 2) = entries
      rw [Nat.sub_eq_zero_of_le hlength, List.drop_zero]
    have hload := History.load_of_holds hholds (some (2 : Nat))
    rw [hkeep, decide_eq_false (Nat.lt_irrefl _)] at hload
    exact start_of_parts rfl (settings_narrow entries) rfl hload rfl
  lines := rfl
  file := rfl
  limit := rfl
  untouched := huntouched
  writable _ := rfl

def firstInputs : List Input := [.line "pwd".toList, .line "  ".toList, .interrupt,
  .line "x \"".toList, .line " EXIT ".toList, .line "never".toList]

def secondInputs : List Input := [.line "\u00E9\n\\".toList, .endOfInput, .line "never".toList]

theorem load_eq_twoSittings : ∃ d, Sessions historyHome 2 (remembering ["old".toList])
      ["pwd".toList, "x \"".toList, "\u00E9\n\\".toList] d ∧
    ∃ isDirty, (History.empty (some 2)).load (some historyHome) d =
      (⟨some 2, ["x \"".toList, "\u00E9\n\\".toList], 0, isDirty⟩, none) := by
  have hholds : History.Holds (remembering ["old".toList]) historyHome ["old".toList] :=
    .inl ⟨_, rfl, History.lists_fileText _⟩
  have hfirst : IsSitting historyHome 2 (remembering ["old".toList]) _ (narrowReady ["old".toList]) :=
    isSitting_narrow (by decide) rfl
  have hone := Sessions.nil.concat hfirst (.ofFiles []) [] firstInputs
  have hsecond : IsSitting historyHome 2
      (run (narrow (remembering ["old".toList])) (.ofFiles []) [] firstInputs).disk
      (narrow (remembering ["pwd".toList, "x \"".toList]))
      (narrowReady ["pwd".toList, "x \"".toList]) := by
    refine isSitting_narrow (by decide) ?_
    rw [disk_run hfirst.start hfirst.lines]
    rfl
  have htwo := hone.concat hsecond (.ofFiles []) [] secondInputs
  exact ⟨_, htwo, Sessions.load_eq htwo hholds⟩

end RemoteShell.Program
