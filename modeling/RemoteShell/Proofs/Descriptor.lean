import RemoteShell.Descriptor
import RemoteShell.Proofs.Assoc

set_option autoImplicit false

namespace RemoteShell

def Argument.texts : Argument → List Text
  | .word t => [t]
  | .words ts => ts
  | .options _ => []

namespace Descriptor

variable {α : Type} {d : Descriptor α} {positionals : List Text} {options : Assoc Value}

def IsDistinct (d : Descriptor α) : Prop :=
  (d.arguments ++ d.rest?.toList ++ ["options".toList]).Nodup

structure Fits (d : Descriptor α) (positionals : List Text) : Prop where
  enough : d.required ≤ positionals.length
  placed : d.rest? = none → positionals.length ≤ d.arguments.length

/-- Arguments that give a handler all of the positionals and the options it reads, and no more. -/
structure Bound (d : Descriptor α) (positionals : List Text) (options : Assoc Value)
    (a : Arguments) : Prop where
  keys : Assoc.keys a = d.arguments.take positionals.length ++ d.rest?.toList ++
    if d.options = some [] then [] else ["options".toList]
  word : ∀ (i : Nat) name t, d.arguments[i]? = some name → positionals[i]? = some t →
    Assoc.get? name a = some (.word t)
  rest : ∀ name ∈ d.rest?,
    Assoc.get? name a = some (.words (positionals.drop d.arguments.length))
  whole : a.flatMap (fun e => e.2.texts) = positionals
  every : d.options = none → Assoc.get? "options".toList a = some (.options options)
  declared : ∀ names, d.options = some names → names ≠ [] →
    Assoc.get? "options".toList a = some (.options (options.filter fun o => o.1 ∈ names))

theorem map_fst_zip_take (names ts : List Text) :
    (names.zip ts).map Prod.fst = names.take ts.length := by
  induction names generalizing ts with
  | nil => simp
  | cons name names ih => cases ts <;> simp [ih]

theorem map_snd_zip_take (names ts : List Text) :
    (names.zip ts).map Prod.snd = ts.take names.length := by
  induction names generalizing ts with
  | nil => simp
  | cons name names ih => cases ts <;> simp [ih]

theorem declared_eq_none_iff : d.declared options = none ↔ d.options = some [] := by
  unfold declared
  split <;> simp_all

theorem keys_slots (d : Descriptor α) (positionals : List Text) (options : Assoc Value) :
    Assoc.keys (d.slots positionals options) =
      d.arguments.take positionals.length ++ d.rest?.toList ++
        if d.options = some [] then [] else ["options".toList] := by
  have hwords : ((d.arguments.zip positionals).map fun p => (p.1, Argument.word p.2)).map Prod.fst =
      d.arguments.take positionals.length := by
    rw [List.map_map, ← map_fst_zip_take]
    rfl
  unfold Assoc.keys slots
  rw [List.map_append, List.map_append, hwords]
  congr 1
  · cases d.rest? <;> rfl
  · cases hdeclared : d.declared options with
    | none => rw [if_pos (declared_eq_none_iff.mp hdeclared)]; rfl
    | some o =>
      rw [if_neg fun h => by rw [declared_eq_none_iff.mpr h] at hdeclared; cases hdeclared]
      rfl

theorem IsDistinct.nodup_keys_slots (h : d.IsDistinct) (positionals : List Text)
    (options : Assoc Value) : (Assoc.keys (d.slots positionals options)).Nodup := by
  rw [keys_slots]
  refine List.Nodup.sublist ?_ h
  refine ((List.take_sublist _ _).append (List.Sublist.refl _)).append ?_
  split
  · exact List.nil_sublist _
  · exact List.Sublist.refl _

theorem IsDistinct.bind_of_fits (h : d.IsDistinct) (hfits : d.Fits positionals)
    (options : Assoc Value) :
    d.bind positionals options = .ok (d.slots positionals options) := by
  have hplaced : ¬((d.arguments.length < positionals.length && d.rest?.isNone) = true) := by
    simp only [Bool.and_eq_true, decide_eq_true_eq, Option.isNone_iff_eq_none]
    exact fun ⟨hlong, hrest⟩ => Nat.not_lt.mpr (hfits.placed hrest) hlong
  rw [bind, if_neg (Nat.not_lt.mpr hfits.enough), if_neg hplaced,
    Assoc.ofPairs_of_nodup (h.nodup_keys_slots positionals options)]

theorem Fits.drop_eq_nil (h : d.Fits positionals) (hrest : d.rest? = none) :
    positionals.drop d.arguments.length = [] :=
  List.drop_eq_nil_of_le (h.placed hrest)

theorem Fits.flatMap_texts_slots (h : d.Fits positionals) (options : Assoc Value) :
    (d.slots positionals options).flatMap (fun e => e.2.texts) = positionals := by
  have hwords : ((d.arguments.zip positionals).map fun p => (p.1, Argument.word p.2)).flatMap
      (fun e => e.2.texts) = positionals.take d.arguments.length := by
    rw [List.flatMap_map, ← map_snd_zip_take]
    exact List.map_eq_flatMap.symm
  have hrest : (d.rest?.toList.map fun name =>
      (name, Argument.words (positionals.drop d.arguments.length))).flatMap
        (fun e => e.2.texts) = positionals.drop d.arguments.length := by
    cases hr : d.rest? with
    | none => exact (h.drop_eq_nil hr).symm
    | some name => exact List.append_nil _
  have hoptions : ((d.declared options).toList.map fun o =>
      ("options".toList, Argument.options o)).flatMap (fun e => e.2.texts) = [] := by
    cases d.declared options <;> rfl
  rw [slots, List.flatMap_append, List.flatMap_append, hwords, hrest, hoptions, List.append_nil,
    List.take_append_drop]

theorem IsDistinct.bound_slots (h : d.IsDistinct) (hfits : d.Fits positionals)
    (options : Assoc Value) : d.Bound positionals options (d.slots positionals options) := by
  have hget {e : Text × Argument} (he : e ∈ d.slots positionals options) :
      Assoc.get? e.1 (d.slots positionals options) = some e.2 :=
    Assoc.get?_of_mem (h.nodup_keys_slots positionals options) he
  have hoptions {o : Assoc Value} (ho : d.declared options = some o) :
      Assoc.get? "options".toList (d.slots positionals options) = some (.options o) := by
    refine hget (e := ("options".toList, .options o)) ?_
    simp [slots, ho]
  refine ⟨keys_slots d positionals options, ?_, ?_, hfits.flatMap_texts_slots options, ?_, ?_⟩
  · intro i name t hname ht
    have hzip : (name, t) ∈ d.arguments.zip positionals :=
      List.mem_of_getElem? (List.getElem?_zip_eq_some.mpr ⟨hname, ht⟩)
    refine hget (e := (name, .word t)) ?_
    exact List.mem_append_left _ (List.mem_append_left _ (List.mem_map_of_mem hzip))
  · intro name hname
    refine hget (e := (name, .words (positionals.drop d.arguments.length))) ?_
    rw [Option.mem_def] at hname
    simp [slots, hname]
  · intro hevery
    exact hoptions (by rw [declared, hevery])
  · intro names hnames hne
    refine hoptions ?_
    rw [declared, hnames]
    cases names with
    | nil => exact absurd rfl hne
    | cons => simp [List.contains_eq_mem]

theorem bind_of_few (h : positionals.length < d.required) :
    d.bind positionals options =
      .error (.misuse d.name (.missing (d.missing positionals.length)) d.usage) := if_pos h

theorem bind_of_many (henough : d.required ≤ positionals.length)
    (hlong : d.arguments.length < positionals.length) (hrest : d.rest? = none) :
    d.bind positionals options =
      .error (.misuse d.name (.tooMany d.arguments.length positionals.length) d.usage) := by
  rw [bind, if_neg (Nat.not_lt.mpr henough), if_pos (by simp [hlong, hrest])]

theorem misuse_of_bind {fault : Fault} (h : d.bind positionals options = .error fault) :
    ∃ why, fault = .misuse d.name why d.usage := by
  unfold bind at h
  split at h
  · exact ⟨_, (Except.error.inj h).symm⟩
  · split at h
    · exact ⟨_, (Except.error.inj h).symm⟩
    · cases h

theorem take_append_missing {given : Nat} (h : given < d.required) :
    d.arguments.take given ++ d.missing given = d.arguments.take d.required := by
  have htake : d.arguments.take given = (d.arguments.take d.required).take given := by
    rw [List.take_take, Nat.min_eq_left (Nat.le_of_lt h)]
  rw [htake, missing, List.take_append_drop]

theorem message_missing (names : List Text) (name usage : Text) :
    (Fault.misuse name (.missing names) usage).message =
      name ++ ": missing ".toList ++ Text.glue [',', ' '] names ++ ". Usage: ".toList ++ usage := by
  have hlead : ": missing ".toList = ": ".toList ++ "missing ".toList := rfl
  change name ++ ": ".toList ++ ("missing ".toList ++ Text.glue _ _) ++ _ ++ _ = _
  rw [hlead]
  simp only [List.append_assoc]

/-- Positionals for a command whose slots have names of their own are refused if and only if they do
not fit. Too few of them are answered with the required arguments that were not given. All others
reach the handler, with the options that it reads. -/
theorem bind_whole (h : d.IsDistinct) (positionals : List Text) (options : Assoc Value) :
    (¬d.Fits positionals ↔ ∃ why, d.bind positionals options =
      .error (.misuse d.name why d.usage)) ∧
    (positionals.length < d.required → ∃ names,
      d.bind positionals options = .error (.misuse d.name (.missing names) d.usage) ∧
        d.arguments.take positionals.length ++ names = d.arguments.take d.required ∧
        (Fault.misuse d.name (.missing names) d.usage).message = d.name ++ ": missing ".toList ++
          Text.glue [',', ' '] names ++ ". Usage: ".toList ++ d.usage) ∧
    (d.Fits positionals → ∃ a, d.bind positionals options = .ok a ∧
      d.Bound positionals options a) := by
  refine ⟨⟨fun hunfit => ?_, ?_⟩, fun hfew => ?_, fun hfits => ?_⟩
  · by_cases hfew : positionals.length < d.required
    · exact ⟨_, bind_of_few hfew⟩
    · have henough := Nat.not_lt.mp hfew
      have hmany : ¬(d.rest? = none → positionals.length ≤ d.arguments.length) :=
        fun hplaced => hunfit ⟨henough, hplaced⟩
      obtain ⟨hrest, hlong⟩ := Classical.not_imp.mp hmany
      exact ⟨_, bind_of_many henough (Nat.not_le.mp hlong) hrest⟩
  · rintro ⟨why, hwhy⟩ hfits
    rw [h.bind_of_fits hfits] at hwhy
    cases hwhy
  · exact ⟨d.missing positionals.length, bind_of_few hfew, take_append_missing hfew,
      message_missing _ _ _⟩
  · exact ⟨_, h.bind_of_fits hfits options, h.bound_slots hfits options⟩

def crowded : Descriptor Unit where
  name := "run".toList
  summary := []
  handler := ()
  arguments := ["a".toList, "b".toList]
  required := 2
  options := some ["z".toList, "x".toList]
  rest := some "more".toList

theorem bind_whole_crowded : crowded.IsDistinct ∧
    crowded.bind ["p".toList] [] =
      .error (.misuse "run".toList (.missing ["b".toList]) crowded.usage) ∧
    ∃ a, crowded.bind ["p".toList, [], "q".toList, "p".toList]
        [("x".toList, .null), ("y".toList, .bool true), ("z".toList, .int 3)] = .ok a ∧
      Assoc.keys a = ["a".toList, "b".toList, "more".toList, "options".toList] ∧
      Assoc.get? "more".toList a = some (.words ["q".toList, "p".toList]) ∧
      Assoc.get? "options".toList a =
        some (.options [("x".toList, .null), ("z".toList, .int 3)]) := by
  have hdistinct : crowded.IsDistinct := by unfold IsDistinct; decide
  obtain ⟨-, hmissing, -⟩ := bind_whole hdistinct ["p".toList] []
  obtain ⟨-, -, hbound⟩ := bind_whole hdistinct ["p".toList, [], "q".toList, "p".toList]
    [("x".toList, .null), ("y".toList, .bool true), ("z".toList, .int 3)]
  obtain ⟨names, hnames, hopen, -⟩ := hmissing (by decide)
  obtain ⟨a, ha, h⟩ := hbound ⟨by decide, by decide⟩
  have hb : names = ["b".toList] := List.append_cancel_left hopen
  refine ⟨hdistinct, hb ▸ hnames, a, ha, ?_, h.rest _ rfl, ?_⟩
  · rw [h.keys]
    decide
  · rw [h.declared _ rfl (by decide)]
    rfl

end Descriptor

end RemoteShell
