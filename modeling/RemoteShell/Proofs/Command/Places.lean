import RemoteShell.Proofs.Command.Items

set_option autoImplicit false

namespace RemoteShell.Command

inductive Use where
  | word
  | name
  | value
  deriving DecidableEq, Repr

/-- What a token is used for, by whether the one before it and it itself name an option. -/
def Use.of (before here : Bool) : Use :=
  if here then .name else if before then .value else .word

def namesAt (ts : List Text) (i : Nat) : Bool := ts[i]?.any isOption

def namesBefore (ts : List Text) : Nat → Bool
  | 0 => false
  | i + 1 => namesAt ts i

def useAt (ts : List Text) (i : Nat) : Use := .of (namesBefore ts i) (namesAt ts i)

def uses (ts : List Text) : List (Use × Text) := ts.mapIdx fun i t => (useAt ts i, t)

def usedAs (use : Use) (ts : List Text) : List Text :=
  ((uses ts).filter fun u => u.1 = use).map Prod.snd

def Item.uses : Item → List (Use × Text)
  | .word t => [(.word, t)]
  | .flag name => [(.name, dashed name)]
  | .option name t => [(.name, dashed name), (.value, t)]

def usesAfter (before : Bool) : List Text → List (Use × Text)
  | [] => []
  | t :: rest => (.of before (isOption t), t) :: usesAfter (isOption t) rest

theorem usesAfter_cons (before : Bool) (t : Text) (rest : List Text) :
    usesAfter before (t :: rest) = (.of before (isOption t), t) :: usesAfter (isOption t) rest :=
  rfl

theorem getElem?_usesAfter (before : Bool) (ts : List Text) (i : Nat) :
    (usesAfter before ts)[i]? = ts[i]?.map fun t =>
      (.of (if i = 0 then before else namesBefore ts i) (isOption t), t) := by
  induction ts generalizing before i with
  | nil => rfl
  | cons t rest ih =>
    cases i with
    | zero => rfl
    | succ i =>
      rw [usesAfter, List.getElem?_cons_succ, List.getElem?_cons_succ, ih]
      cases i with
      | zero => rfl
      | succ i => rfl

theorem uses_eq_usesAfter (ts : List Text) : uses ts = usesAfter false ts := by
  refine List.ext_getElem? fun i => ?_
  rw [uses, List.getElem?_mapIdx, getElem?_usesAfter]
  cases hi : ts[i]? with
  | none => rfl
  | some t =>
    cases i <;> simp [useAt, namesAt, namesBefore, hi]

theorem usesAfter_of_isOption {t : Text} (h : isOption t = true) (before before' : Bool)
    (rest : List Text) : usesAfter before (t :: rest) = usesAfter before' (t :: rest) := by
  simp [usesAfter, Use.of, h]

/-- The items of a line use its tokens in order, each once and as its place tells. -/
theorem flatMap_uses_items (ts : List Text) : (items ts).flatMap Item.uses = uses ts := by
  rw [uses_eq_usesAfter]
  fun_induction items ts with
  | case1 => rfl
  | case2 t h => simp [Item.uses, usesAfter, isOption, h, Use.of]
  | case3 t name h => rw [optionName?_eq_some h]; rfl
  | case4 t u rest h ih =>
    have ht : isOption t = false := by rw [isOption, h]; rfl
    rw [List.flatMap_cons, ih, usesAfter_cons false t, ht]
    rfl
  | case5 t u rest name h ho ih =>
    rw [List.flatMap_cons, ih, optionName?_eq_some h, usesAfter_of_isOption ho false true]
    rfl
  | case6 t u rest name h ho ih =>
    -- `u` is used up, and as it names no option the rest goes on as behind a word
    have hu : isOption u = false := Bool.eq_false_iff.mpr ho
    rw [List.flatMap_cons, ih, optionName?_eq_some h, usesAfter_cons, usesAfter_cons _ u, hu]
    rfl

theorem wordsOf_eq_usedAs (ts : List Text) : wordsOf ts = usedAs .word ts := by
  rw [wordsOf, usedAs, ← flatMap_uses_items]
  induction items ts with
  | nil => rfl
  | cons i is ih =>
    rw [List.flatMap_cons, List.filter_append, List.map_append, ← ih]
    cases i <;> rfl

/-- The value of an option at a place is read from the next token, unless that is an option as well
or there is none. -/
def valueAt (ts : List Text) (i : Nat) : Value :=
  match ts[i + 1]? with
  | some t => if isOption t then .bool true else decodeValue t
  | none => .bool true

def lastNamed? (ts : List Text) (name : Text) : Option Nat :=
  (List.range ts.length).reverse.find? fun i => ts[i]? = some (dashed name)

def entryAt? (ts : List Text) (i : Nat) : Option (Text × Value) :=
  (ts[i]?.bind optionName?).map fun name => (name, valueAt ts i)

theorem keys_entriesOf (ts : List Text) :
    Assoc.keys (entriesOf ts) = ts.filterMap optionName? := by
  unfold entriesOf Assoc.keys
  fun_induction items ts with
  | case1 => rfl
  | case2 t h => simp [Item.entry?, h]
  | case3 t name h => simp [Item.entry?, h]
  | case4 t u rest h ih => simpa [Item.entry?, List.filterMap_cons, h] using ih
  | case5 t u rest name h ho ih => simpa [Item.entry?, List.filterMap_cons, h] using ih
  | case6 t u rest name h ho ih =>
    have hu : optionName? u = none := by simpa [isOption] using ho
    simpa [Item.entry?, List.filterMap_cons, h, hu] using ih

def entriesAt (ts : List Text) : Assoc Value := (List.range ts.length).filterMap (entryAt? ts)

theorem entriesAt_cons (t : Text) (ts : List Text) :
    entriesAt (t :: ts) = (entryAt? (t :: ts) 0).toList ++ entriesAt ts := by
  have hsucc : entryAt? (t :: ts) ∘ Nat.succ = entryAt? ts := funext fun i => by
    simp [entryAt?, valueAt]
  rw [entriesAt, List.length_cons, List.range_succ_eq_map, List.filterMap_cons,
    List.filterMap_map, hsucc]
  cases entryAt? (t :: ts) 0 <;> rfl

theorem entriesOf_eq_entriesAt (ts : List Text) : entriesOf ts = entriesAt ts := by
  unfold entriesOf
  fun_induction items ts with
  | case1 => rfl
  | case2 t h => simp [entriesAt, Item.entry?, entryAt?, h]
  | case3 t name h => simp [entriesAt, Item.entry?, entryAt?, valueAt, h]
  | case4 t u rest h ih =>
    simp [entriesAt_cons t, ← ih, List.filterMap_cons, Item.entry?, entryAt?, h]
  | case5 t u rest name h ho ih =>
    simp [entriesAt_cons t, ← ih, Item.entry?, entryAt?, valueAt, h, ho]
  | case6 t u rest name h ho ih =>
    have hu : optionName? u = none := by simpa [isOption] using ho
    simp [entriesAt_cons, ← ih, Item.entry?, entryAt?, valueAt, h, hu, ho]

theorem any_entryAt? (ts : List Text) (name : Text) (i : Nat) :
    (entryAt? ts i).any (fun e => e.1 = name) = decide (ts[i]? = some (dashed name)) := by
  cases hi : ts[i]? with
  | none => simp [entryAt?, hi]
  | some t =>
    have hname : optionName? t = some name ↔ t = dashed name :=
      ⟨optionName?_eq_some, fun h => by rw [h]; rfl⟩
    cases ht : optionName? t with
    | none => simp [entryAt?, hi, ht, ← hname]
    | some other => simp [entryAt?, hi, ht, ← hname]

theorem get?_ofPairs_entriesOf (ts : List Text) (name : Text) :
    Assoc.get? name (Assoc.ofPairs (entriesOf ts)) = (lastNamed? ts name).map (valueAt ts) := by
  rw [Assoc.get?_ofPairs, entriesOf_eq_entriesAt, entriesAt, ← List.filterMap_reverse,
    List.find?_filterMap]
  simp only [any_entryAt?]
  rw [← lastNamed?]
  cases hlast : lastNamed? ts name with
  | none => rfl
  | some i =>
    have hi : ts[i]? = some (dashed name) := by simpa using List.find?_some hlast
    have hname : optionName? (dashed name) = some name := rfl
    simp [entryAt?, hi, hname]

/-- The words of a line are the tokens that name no option and do not follow one that does: the
first is the name of the command and the others are its positionals. Its options have the names of
the option tokens, in the order in which they first come, and what follows the last option of a name
decides its value. So each token is used once, for one thing. -/
theorem ofTokens_local (ts : List Text) :
    (ofTokens ts).name = (usedAs .word ts).headD [] ∧
      (ofTokens ts).positionals = (usedAs .word ts).drop 1 ∧
      Assoc.keys (ofTokens ts).options = (ts.filterMap optionName?).eraseDups ∧
      (∀ name, Assoc.get? name (ofTokens ts).options = (lastNamed? ts name).map (valueAt ts)) ∧
      (items ts).flatMap Item.uses = uses ts := by
  have hoptions : (ofTokens ts).options = Assoc.ofPairs (entriesOf ts) := rfl
  rw [hoptions, ← wordsOf_eq_usedAs, Assoc.keys_ofPairs, keys_entriesOf]
  exact ⟨rfl, rfl, rfl, get?_ofPairs_entriesOf ts, flatMap_uses_items ts⟩

example : (uses (["rm", "--all", "--depth", "2", "a"].map String.toList)).map Prod.fst =
    [.word, .name, .name, .value, .word] := by decide

end RemoteShell.Command
