import RemoteShell.Proofs.Assoc.Weight
import RemoteShell.Settings

set_option autoImplicit false

namespace RemoteShell.Settings

variable {layers layers' : Layers}

/-- The value that layers give a setting: that of the first layer with one. -/
def given? (layers : Layers) (setting : Text) : Option Value :=
  layers.findSome? (Assoc.get? setting)

def checks : List (Text × (Value → Bool)) :=
  [("base_url".toList, fun v => (readText v).isOk),
    ("timeout".toList, fun v => (readNumber v).isOk),
    ("history_file".toList, fun v => (readLocation v).isOk),
    ("max_history".toList, fun v => (readCount v).isOk),
    ("ordered".toList, fun v => (readTruth v).isOk),
    ("prompt".toList, fun v => (readText v).isOk),
    ("log_level".toList, fun v => (readText v).isOk)]

def names : List Text := checks.map Prod.fst

/-- A value that a setting can have: with it alone there are settings. -/
def Fits (setting : Text) (v : Value) : Prop := ∃ s, ofLayers [[(setting, v)]] = .ok s

theorem given?_of_hidden {top : Assoc Value} {setting : Text}
    (h : ∀ fields ∈ layers, ∀ e ∈ fields, Assoc.has e.1 top = true) :
    given? (top :: layers) setting = Assoc.get? setting top := by
  unfold given?
  rw [List.findSome?_cons]
  cases htop : Assoc.get? setting top with
  | some v => rfl
  | none =>
    rw [List.findSome?_eq_none_iff]
    intro fields hfields
    cases hget : Assoc.get? setting fields with
    | none => rfl
    | some v =>
      have hset := h fields hfields _ (Assoc.mem_of_get? hget)
      rw [Assoc.has, htop] at hset
      cases hset

theorem pick_congr {α : Type} {setting : String} (read : Value → Except Problem α) (default : α)
    (h : given? layers setting.toList = given? layers' setting.toList) :
    pick setting read default layers = pick setting read default layers' := by
  rw [pick, pick, ← given?, h, given?]

/-- Layers that give every setting the same value make the same settings, or fail alike. -/
theorem ofLayers_congr (h : ∀ name ∈ names, given? layers name = given? layers' name) :
    ofLayers layers = ofLayers layers' := by
  have hname {name : String} (hmem : name.toList ∈ names) {α : Type}
      (read : Value → Except Problem α) (default : α) :
      pick name read default layers = pick name read default layers' :=
    pick_congr read default (h _ hmem)
  unfold ofLayers
  rw [hname (by decide), hname (by decide), hname (by decide), hname (by decide),
    hname (by decide), hname (by decide), hname (by decide)]

theorem exists_pick_iff {α : Type} {setting : String} {read : Value → Except Problem α}
    {default : α} :
    (∃ a, pick setting read default layers = .ok a) ↔
      ∀ v, given? layers setting.toList = some v → (read v).isOk = true := by
  unfold pick
  rw [← given?]
  cases given? layers setting.toList with
  | none => exact ⟨fun _ _ => nofun, fun _ => ⟨default, rfl⟩⟩
  | some v =>
    simp only [Option.some.injEq, forall_eq']
    cases read v with
    | error p => exact ⟨nofun, nofun⟩
    | ok a => exact ⟨fun _ => rfl, fun _ => ⟨a, rfl⟩⟩

theorem exists_ofLayers_iff_exists_pick :
    (∃ s, ofLayers layers = .ok s) ↔
      (∃ a, pick "base_url" readText defaults.baseUrl layers = .ok a) ∧
      (∃ a, pick "timeout" readNumber defaults.timeout layers = .ok a) ∧
      (∃ a, pick "history_file" readLocation defaults.historyFile layers = .ok a) ∧
      (∃ a, pick "max_history" readCount defaults.maxHistory layers = .ok a) ∧
      (∃ a, pick "ordered" readTruth defaults.isOrdered layers = .ok a) ∧
      (∃ a, pick "prompt" readText defaults.prompt layers = .ok a) ∧
      (∃ a, pick "log_level" readText defaults.logLevel layers = .ok a) := by
  unfold ofLayers
  dsimp only
  constructor
  · rintro ⟨s, hs⟩
    split at hs
    · next ha hb hc hd he hf hg =>
      exact ⟨⟨_, ha⟩, ⟨_, hb⟩, ⟨_, hc⟩, ⟨_, hd⟩, ⟨_, he⟩, ⟨_, hf⟩, ⟨_, hg⟩⟩
    · cases hs
  · rintro ⟨⟨a, ha⟩, ⟨b, hb⟩, ⟨c, hc⟩, ⟨d, hd⟩, ⟨e, he⟩, ⟨f, hf⟩, ⟨g, hg⟩⟩
    simp only [ha, hb, hc, hd, he, hf, hg]
    exact ⟨_, rfl⟩

theorem exists_ofLayers_iff_checks :
    (∃ s, ofLayers layers = .ok s) ↔
      ∀ c ∈ checks, ∀ v, given? layers c.1 = some v → c.2 v = true := by
  rw [exists_ofLayers_iff_exists_pick]
  simp only [exists_pick_iff, checks, List.forall_mem_cons, List.not_mem_nil, false_imp_iff,
    implies_true, and_true]

theorem given?_single (name setting : Text) (v : Value) :
    given? [[(name, v)]] setting = if name = setting then some v else none := by
  unfold given?
  rw [List.findSome?_singleton, Assoc.get?_cons]
  rfl

theorem fits_iff {setting : Text} {v : Value} :
    Fits setting v ↔ ∀ c ∈ checks, setting = c.1 → c.2 v = true := by
  rw [Fits, exists_ofLayers_iff_checks]
  simp only [given?_single, Option.ite_none_right_eq_some, Option.some.injEq, and_imp]
  exact ⟨fun h c hc hs => h c hc v hs rfl, fun h c hc w hs hw => hw ▸ h c hc hs⟩

/-- Layers make settings exactly when each value they give fits its setting. -/
theorem exists_ofLayers_iff :
    (∃ s, ofLayers layers = .ok s) ↔
      ∀ name ∈ names, ∀ v, given? layers name = some v → Fits name v := by
  rw [exists_ofLayers_iff_checks]
  constructor
  · intro h name _ v hv
    refine fits_iff.mpr fun c hc hname => h c hc v ?_
    rw [← hname, hv]
  · intro h c hc v hv
    exact fits_iff.mp (h c.1 (List.mem_map_of_mem hc) v hv) c hc rfl

end RemoteShell.Settings
