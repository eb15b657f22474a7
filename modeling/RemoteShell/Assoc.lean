import RemoteShell.Text.Points

set_option autoImplicit false

namespace RemoteShell

abbrev Assoc (α : Type) := List (Text × α)

namespace Assoc

/-- Keys may be named by something else that stands for them. -/
class AsKey (ι κ : Type) where
  asKey : ι → κ

variable {ι κ α : Type}

instance : AsKey κ κ := ⟨fun key => key⟩

instance : AsKey Text Points := ⟨Points.ofText⟩

def keys (m : List (κ × α)) : List κ := m.map Prod.fst

variable [DecidableEq κ]

def get? [AsKey ι κ] (key : ι) : List (κ × α) → Option α
  | [] => none
  | (k, v) :: rest => if k = AsKey.asKey key then some v else get? key rest

def put (key : κ) (value : α) : List (κ × α) → List (κ × α)
  | [] => [(key, value)]
  | (k, v) :: rest => if k = key then (k, value) :: rest else (k, v) :: put key value rest

def putAll (entries base : List (κ × α)) : List (κ × α) :=
  entries.foldl (fun m e => put e.1 e.2 m) base

def ofPairs (entries : List (κ × α)) : List (κ × α) := putAll entries []

def erase (key : κ) (m : List (κ × α)) : List (κ × α) := m.filter fun e => e.1 ≠ key

def has (key : Text) (m : Assoc α) : Bool := (get? key m).isSome

theorem get?_cons (key : κ) (e : κ × α) (rest : List (κ × α)) :
    get? key (e :: rest) = if e.1 = key then some e.2 else get? key rest := rfl

@[simp] theorem get?_put (key other : κ) (value : α) (m : List (κ × α)) :
    get? other (put key value m) = if key = other then some value else get? other m := by
  induction m with
  | nil => rfl
  | cons e rest ih =>
    obtain ⟨k, v⟩ := e
    by_cases hk : k = key
    · subst hk
      by_cases ho : k = other <;> simp [put, get?_cons, ho]
    · by_cases ho : k = other
      · subst ho
        simp [put, get?_cons, hk, Ne.symm hk]
      · simp [put, get?_cons, hk, ho, ih]

end Assoc

end RemoteShell
