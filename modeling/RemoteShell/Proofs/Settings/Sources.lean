import Mathlib
import RemoteShell.Proofs.Disk
import RemoteShell.Proofs.Json.Stored
import RemoteShell.Proofs.Outcome
import RemoteShell.Proofs.Settings.Layers
import RemoteShell.Settings.Sources

/-! What settings depend on. As a rule only the highest layer that sets a setting counts for it, and
a file that is no object counts as missing. The exceptions are variables that do not fit although
they are overridden, and files that cannot be read. -/

set_option autoImplicit false

namespace RemoteShell.Settings

structure Sources where
  disk : Disk
  environment : Assoc Text
  file : Location
  overrides : Assoc Value

namespace Sources

variable {s s' : Sources} {r : Settings}

def load (s : Sources) : Except Fault Settings :=
  Settings.load s.disk s.environment s.file s.overrides

/-- The layers of variables, those of the environment over those of the file of variables. -/
def ofVariables (s : Sources) : Layers := variableLayers s.disk s.environment

/-- What the file sets. One that cannot be read sets nothing. -/
def inFile (s : Sources) : Assoc Value :=
  match ofFile s.disk s.file with
  | .ok fields => fields
  | .error _ => []

def layers (s : Sources) : Layers := ofOverrides s.overrides :: s.ofVariables ++ [s.inFile]

def outcome (s : Sources) : Option Settings := s.load.toOption

/-- Nothing is in the way of the settings that has no say in them: variables fit also where they are
overridden, and the file can be read. -/
structure IsClear (s : Sources) : Prop where
  overridden : ∀ name ∈ names, Assoc.has name (ofOverrides s.overrides) = true →
    ∀ v, given? s.ofVariables name = some v → Fits name v
  file : ∃ fields, ofFile s.disk s.file = .ok fields

theorem isClear_of_variables (hvariables : ∃ r, ofLayers s.ofVariables = .ok r)
    (hfile : ∃ fields, ofFile s.disk s.file = .ok fields) : s.IsClear :=
  ⟨fun name hname _ => exists_ofLayers_iff.mp hvariables name hname, hfile⟩

theorem given?_layers {name : Text} {v : Value}
    (hname : Assoc.has name (ofOverrides s.overrides) = false)
    (hv : given? s.ofVariables name = some v) : given? s.layers name = some v := by
  have hnone : Assoc.get? name (ofOverrides s.overrides) = none := by
    rwa [Assoc.has, Option.isSome_eq_false_iff, Option.isNone_iff_eq_none] at hname
  unfold given? layers at *
  rw [List.cons_append, List.findSome?_cons, hnone]
  dsimp only
  rw [List.findSome?_append, hv]
  rfl

theorem load_of_invalid {is : List Invalid} (hvariables : ofLayers s.ofVariables = .error is) :
    s.load = .error (.invalid is) := by
  unfold ofVariables at hvariables
  unfold load Settings.load
  simp only [hvariables]

theorem load_of_unreadable {fault : RemoteShell.Fault}
    (hvariables : ∃ r, ofLayers s.ofVariables = .ok r)
    (hfile : ofFile s.disk s.file = .error fault) : s.load = .error (.unreadable fault) := by
  obtain ⟨r, hvariables⟩ := hvariables
  unfold ofVariables at hvariables
  unfold load Settings.load
  simp only [hvariables, hfile]

theorem load_of_readable {fields : Assoc Value} (hvariables : ∃ r, ofLayers s.ofVariables = .ok r)
    (hfile : ofFile s.disk s.file = .ok fields) :
    s.load = (ofLayers s.layers).mapError .invalid := by
  obtain ⟨r, hvariables⟩ := hvariables
  have hin : s.inFile = fields := by simp only [inFile, hfile]
  unfold ofVariables at hvariables
  unfold load Settings.load layers ofVariables
  simp only [hvariables, hfile, hin]

/-- Loading succeeds with the settings of the layers where nothing is in the way. -/
theorem load_eq_ok_iff : s.load = .ok r ↔ s.IsClear ∧ ofLayers s.layers = .ok r := by
  constructor
  · intro h
    cases hvariables : ofLayers s.ofVariables with
    | error is => rw [load_of_invalid hvariables] at h; cases h
    | ok r' =>
      cases hfile : ofFile s.disk s.file with
      | error fault => rw [load_of_unreadable ⟨r', hvariables⟩ hfile] at h; cases h
      | ok fields =>
        rw [load_of_readable ⟨r', hvariables⟩ hfile, Outcome.mapError_eq_ok_iff] at h
        exact ⟨isClear_of_variables ⟨r', hvariables⟩ ⟨fields, hfile⟩, h⟩
  · rintro ⟨hclear, hlayers⟩
    have hvariables : ∃ r', ofLayers s.ofVariables = .ok r' := by
      refine exists_ofLayers_iff.mpr fun name hname v hv => ?_
      cases hover : Assoc.has name (ofOverrides s.overrides) with
      | true => exact hclear.overridden name hname hover v hv
      | false => exact exists_ofLayers_iff.mp ⟨r, hlayers⟩ name hname v (given?_layers hover hv)
    obtain ⟨fields, hfile⟩ := hclear.file
    rw [load_of_readable hvariables hfile, Outcome.mapError_eq_ok_iff]
    exact hlayers

theorem outcome_eq_some_iff : s.outcome = some r ↔ s.IsClear ∧ ofLayers s.layers = .ok r := by
  rw [← load_eq_ok_iff, outcome]
  cases s.load with
  | error fault => exact ⟨nofun, nofun⟩
  | ok r' => exact ⟨fun h => congrArg _ (Option.some.inj h), fun h => congrArg _ (Except.ok.inj h)⟩

/-- Two sources that agree, for every setting, on the value of the highest layer that sets it have
the same outcome, whatever is in the layers below: always where such values do not fit, and else
exactly when nothing is in the way of both or something of both. -/
theorem outcome_eq_iff
    (h : ∀ name ∈ names, given? s.layers name = given? s'.layers name) :
    s.outcome = s'.outcome ↔
      ((∃ r, ofLayers s.layers = .ok r) → (s.IsClear ↔ s'.IsClear)) := by
  have hlayers : ofLayers s.layers = ofLayers s'.layers := ofLayers_congr h
  constructor
  · rintro houtcome ⟨r, hr⟩
    have hsome : s.outcome = some r ↔ s'.outcome = some r := by rw [houtcome]
    rw [outcome_eq_some_iff, outcome_eq_some_iff, ← hlayers] at hsome
    exact ⟨fun hclear => (hsome.mp ⟨hclear, hr⟩).1, fun hclear => (hsome.mpr ⟨hclear, hr⟩).1⟩
  · intro hclear
    refine Option.ext fun r => ?_
    rw [outcome_eq_some_iff, outcome_eq_some_iff, ← hlayers]
    exact and_congr_left fun hr => hclear ⟨r, hr⟩

def crowded : Sources where
  disk := .single "c.json".toList (Utf8.encode "\x7b\"ordered\": \"maybe\"\x7d".toList)
  environment := [("VFSH_ORDERED".toList, "yes".toList)]
  file := .given "c.json".toList
  overrides := [("ordered".toList, .bool false)]

def bare : Sources := { crowded with disk := .empty, environment := [] }

theorem ofVariables_crowded :
    crowded.ofVariables = [[("ordered".toList, .text "yes".toList)], []] := by
  rfl

theorem ofFile_crowded : ofFile crowded.disk crowded.file =
    .ok [("ordered".toList, .text "maybe".toList)] := by
  have hdocument : Json.IsDocument (Utf8.encode "\x7b\"ordered\": \"maybe\"\x7d".toList)
      (.map [("ordered".toList, .text "maybe".toList)]) := ⟨_, Utf8.strict_encode _, by cbv⟩
  have hread (content : Octets) :
      (Disk.single "c.json".toList content).read (.given "c.json".toList) = .ok content := rfl
  unfold ofFile crowded
  simp only [hread, Json.object?_eq_some_iff.mpr hdocument]
  rfl

theorem outcome_eq_crowded : crowded.outcome = bare.outcome := by
  have hcrowded : crowded.layers =
      [[("ordered".toList, .bool false)], [("ordered".toList, .text "yes".toList)], [],
        [("ordered".toList, .text "maybe".toList)]] := by
    unfold layers inFile
    rw [ofVariables_crowded, ofFile_crowded]
    rfl
  have hbare : bare.layers = [[("ordered".toList, .bool false)], [], [], []] := rfl
  have hgiven (name : Text) : given? crowded.layers name = given? bare.layers name := by
    rw [hcrowded, hbare, given?_of_hidden (by decide), given?_of_hidden (by decide)]
  refine (outcome_eq_iff fun name _ => hgiven name).mpr fun _ => iff_of_true ?_ ?_
  · refine isClear_of_variables ?_ ⟨_, ofFile_crowded⟩
    rw [ofVariables_crowded]
    exact ⟨_, rfl⟩
  · exact isClear_of_variables ⟨_, rfl⟩ ⟨_, rfl⟩

def delayed : Sources where
  disk := .empty
  environment := [("VFSH_TIMEOUT".toList, "soon".toList)]
  file := defaultFile
  overrides := [("timeout".toList, .real (Double.ofInt 5))]

/-- A variable that does not fit stands in the way of the override that hides it. -/
theorem not_outcome_eq_delayed : ¬∀ s s' : Sources,
    (∀ name ∈ names, given? s.layers name = given? s'.layers name) → s.outcome = s'.outcome := by
  intro hall
  have hdelayed : delayed.layers = [[("timeout".toList, .real (Double.ofInt 5))],
      [("timeout".toList, .text "soon".toList)], [], []] := rfl
  have hprompt : ({ delayed with environment := [] } : Sources).layers =
      [[("timeout".toList, .real (Double.ofInt 5))], [], [], []] := rfl
  have houtcome := hall delayed { delayed with environment := [] } fun name _ => by
    rw [hdelayed, hprompt, given?_of_hidden (by decide), given?_of_hidden (by decide)]
  have hnone : delayed.outcome = none := by
    have hinvalid : ofLayers delayed.ofVariables = .error [⟨"timeout".toList, .numberText⟩] := rfl
    rw [outcome, load_of_invalid hinvalid]
    rfl
  have hsome : ({ delayed with environment := [] } : Sources).outcome = some _ :=
    outcome_eq_some_iff.mpr ⟨isClear_of_variables ⟨_, rfl⟩ ⟨_, rfl⟩, rfl⟩
  rw [hnone, hsome] at houtcome
  cases houtcome

theorem exists_ofFile_iff {d : Disk} {file : Location} {content : Octets}
    (hread : d.read file = .ok content) :
    (∃ fields, ofFile d file = .ok fields) ↔ Json.IsReadable content := by
  unfold ofFile
  simp only [hread]
  rw [← Json.exists_object?_iff]
  cases Json.object? content with
  | error fault => exact ⟨nofun, nofun⟩
  | ok found => exact ⟨fun _ => ⟨found, rfl⟩, fun _ => ⟨_, rfl⟩⟩

theorem ofFile_of_corrupt {d : Disk} {file : Location} {content : Octets}
    (hread : d.read file = .ok content) (hreadable : Json.IsReadable content)
    (hcorrupt : ∀ fields, ¬Json.IsDocument content (.map fields)) : ofFile d file = .ok [] := by
  unfold ofFile
  simp only [hread, Json.object?_eq_none_iff.mpr ⟨hreadable, hcorrupt⟩]
  rfl

theorem ofFile_of_missing {d : Disk} {file : Location} (hmissing : d.read file = .error .missing) :
    ofFile d file = .ok [] := by
  unfold ofFile
  simp only [hmissing]

/-- A file that is no object counts as missing, whatever the other sources are, exactly when it can
be read or the variables fail first. -/
theorem load_eq_missing_iff {content : Octets} {d : Disk}
    (hread : s.disk.read s.file = .ok content)
    (hcorrupt : ∀ fields, ¬Json.IsDocument content (.map fields))
    (hmissing : d.read s.file = .error .missing)
    (hvariables : d.read envFile = s.disk.read envFile) :
    s.load = { s with disk := d }.load ↔
      Json.IsReadable content ∨ ∀ r, ofLayers s.ofVariables ≠ .ok r := by
  have hsame : ({ s with disk := d } : Sources).ofVariables = s.ofVariables := by
    unfold ofVariables variableLayers
    rw [hvariables]
  cases hfits : ofLayers s.ofVariables with
  | error is =>
    rw [load_of_invalid hfits, load_of_invalid (hsame ▸ hfits)]
    exact ⟨fun _ => .inr nofun, fun _ => rfl⟩
  | ok r =>
    have hloaded := load_of_readable (s := { s with disk := d }) ⟨r, hsame ▸ hfits⟩
      (ofFile_of_missing hmissing)
    by_cases hreadable : Json.IsReadable content
    · have hfile := ofFile_of_corrupt hread hreadable hcorrupt
      have hlayers : ({ s with disk := d } : Sources).layers = s.layers := by
        unfold layers inFile
        simp only [hsame, hfile, ofFile_of_missing hmissing]
      rw [load_of_readable ⟨r, hfits⟩ hfile, hloaded, hlayers]
      exact iff_of_true rfl (.inl hreadable)
    · cases hfile : ofFile s.disk s.file with
      | ok fields => exact absurd ((exists_ofFile_iff hread).mp ⟨fields, hfile⟩) hreadable
      | error fault =>
        rw [load_of_unreadable ⟨r, hfits⟩ hfile, hloaded]
        refine iff_of_false ?_ fun h => h.elim hreadable fun hnone => hnone r rfl
        cases ofLayers ({ s with disk := d } : Sources).layers <;> exact nofun

def ofContent (content : Octets) : Sources where
  disk := .single "c.json".toList content
  environment := []
  file := .given "c.json".toList
  overrides := []

theorem read_ofContent (content : Octets) :
    (ofContent content).disk.read (ofContent content).file = .ok content := rfl

theorem load_eq_missing_list :
    (ofContent (Utf8.encode "[1, 2]".toList)).load =
      { ofContent (Utf8.encode "[1, 2]".toList) with disk := .empty }.load := by
  have hdocument : Json.IsDocument (Utf8.encode "[1, 2]".toList) (.list [.int 1, .int 2]) :=
    ⟨_, Utf8.strict_encode _, by cbv⟩
  refine (load_eq_missing_iff (d := .empty) (read_ofContent _) (fun fields hfields => ?_) rfl
    rfl).mpr (.inl hdocument.isReadable)
  cases hdocument.unique hfields

/-- An integer with too many digits does not count as missing. -/
theorem not_load_eq_missing_ones : ¬∀ (s : Sources) (content : Octets) (d : Disk),
    s.disk.read s.file = .ok content → (∀ fields, ¬Json.IsDocument content (.map fields)) →
      d.read s.file = .error .missing → d.read envFile = s.disk.read envFile →
        s.load = { s with disk := d }.load := by
  intro hall
  have hlong := Json.not_isReadable_ones (n := Numeral.mostDigits) (Nat.lt_succ_self _)
  generalize hcontent : Utf8.encode (Json.ones (Numeral.mostDigits + 1)) = content at hlong
  have hsame := hall (ofContent content) content .empty (read_ofContent content)
    (fun fields hfields => hlong hfields.isReadable) rfl rfl
  have hmissing : ({ ofContent content with disk := .empty } : Sources).load = .ok defaults := rfl
  rw [hmissing, load_eq_ok_iff] at hsame
  exact hlong ((exists_ofFile_iff (read_ofContent content)).mp hsame.1.file)

end Sources

end RemoteShell.Settings
