import RemoteShell.Proofs.Assoc.Weight
import RemoteShell.Proofs.Command.RoundTrip
import RemoteShell.Proofs.Json.Span

set_option autoImplicit false

namespace RemoteShell.Command

def dashed (name : Text) : Text := '-' :: '-' :: name

def Item.tokens : Item → List Text
  | .word t => [t]
  | .flag name => [dashed name]
  | .option name t => [dashed name, t]

theorem optionName?_eq_some {t name : Text} (h : optionName? t = some name) : t = dashed name := by
  unfold optionName? at h
  split at h
  · cases h; rfl
  · cases h

theorem flatMap_tokens_items (ts : List Text) : (items ts).flatMap Item.tokens = ts := by
  fun_induction items ts with
  | case1 => rfl
  | case2 t h => rfl
  | case3 t name h => rw [optionName?_eq_some h]; rfl
  | case4 t u rest h ih => rw [List.flatMap_cons, ih]; rfl
  | case5 t u rest name h ho ih => rw [List.flatMap_cons, ih, optionName?_eq_some h]; rfl
  | case6 t u rest name h ho ih => rw [List.flatMap_cons, ih, optionName?_eq_some h]; rfl

/-- The words of a line, and the entries of its options in their order. -/
def wordsOf (ts : List Text) : List Text := (items ts).filterMap Item.word?

def entriesOf (ts : List Text) : Assoc Value := (items ts).filterMap Item.entry?

theorem same_ofTokens {ts : List Text} {name : Text} {m : Assoc Value}
    (h : (ofTokens ts).same name m = true) :
    (wordsOf ts = [] ∧ name = [] ∨ wordsOf ts = [name]) ∧
      Value.same (.map (Value.Fields.ofAssoc (Assoc.ofPairs (entriesOf ts)))) (.map m) = true := by
  rw [same, Bool.and_eq_true, Bool.and_eq_true, beq_iff_eq, List.isEmpty_iff] at h
  obtain ⟨⟨hname, hpositionals⟩, hsame⟩ := h
  refine ⟨?_, hsame⟩
  change (wordsOf ts).headD [] = name at hname
  change (wordsOf ts).drop 1 = [] at hpositionals
  cases hw : wordsOf ts with
  | nil => rw [hw] at hname; exact .inl ⟨rfl, hname.symm⟩
  | cons t rest =>
    rw [hw] at hname hpositionals
    exact .inr (by rw [← hname, show rest = [] from hpositionals]; rfl)

def cost (a : Text → Nat) (ts : List Text) : Nat := (ts.map a).sum

variable {a : Text → Nat}

theorem cost_cons (t : Text) (ts : List Text) : cost a (t :: ts) = a t + cost a ts := List.sum_cons

theorem cost_append (ts us : List Text) : cost a (ts ++ us) = cost a ts + cost a us := by
  rw [cost, List.map_append, List.sum_append_nat]
  rfl

theorem cost_one (ts : List Text) : cost (fun _ => 1) ts = ts.length := by
  rw [cost, List.map_const', List.sum_replicate_nat, Nat.mul_one]

theorem cost_length (ts : List Text) : cost List.length ts = ts.flatten.length :=
  List.length_flatten.symm

theorem eq_zero_of_cost {ts : List Text} (h : cost a ts = 0) {t : Text} (ht : t ∈ ts) : a t = 0 :=
  List.sum_eq_zero_iff_forall_eq_nat.mp h _ (List.mem_map_of_mem ht)

/-- The weight of an option is that of its tokens, of which a flag has one. -/
def optionWeight (a : Text → Nat) (e : Text × Value) : Nat := a (dashed e.1) + e.2.weight a

/-- The words and the entries of a line weigh at most what its tokens cost, if a value never costs
less than the text that is read from it. -/
theorem weigh_entriesOf_le (ha : ∀ t s, decodeValue t = .text s → a s.toText ≤ a t)
    (ts : List Text) :
    cost a (wordsOf ts) + Assoc.weigh (optionWeight a) (entriesOf ts) ≤ cost a ts := by
  have hvalue (t : Text) : (decodeValue t).weight a ≤ a t := by
    cases hv : decodeValue t with
    | text s => exact ha t s hv
    | _ => exact Nat.zero_le _
  have hitems (is : List Item) : cost a (is.filterMap Item.word?) +
      Assoc.weigh (optionWeight a) (is.filterMap Item.entry?) ≤ cost a (is.flatMap Item.tokens) := by
    induction is with
    | nil => exact Nat.le_refl _
    | cons i is ih =>
      cases i with
      | word t =>
        simp only [List.filterMap_cons, Item.word?, Item.entry?, List.flatMap_cons, Item.tokens,
          cost_cons, List.cons_append, List.nil_append]
        omega
      | flag name =>
        simp only [List.filterMap_cons, Item.word?, Item.entry?, List.flatMap_cons, Item.tokens,
          Assoc.weigh_cons, optionWeight, Value.weight, cost_cons, List.cons_append,
          List.nil_append]
        omega
      | option name t =>
        have ht := hvalue t
        simp only [List.filterMap_cons, Item.word?, Item.entry?, List.flatMap_cons, Item.tokens,
          Assoc.weigh_cons, optionWeight, cost_cons, List.cons_append, List.nil_append]
        omega
  calc
    _ ≤ cost a ((items ts).flatMap Item.tokens) := hitems (items ts)
    _ = cost a ts := by rw [flatMap_tokens_items]

theorem cost_isOption (ts : List Text) :
    cost (fun t => (isOption t).toNat) ts = (entriesOf ts).length := by
  unfold entriesOf
  fun_induction items ts with
  | case1 => rfl
  | case2 t h => simp [cost, isOption, h, Item.entry?, List.filterMap_cons]
  | case3 t name h => simp [cost, isOption, h, Item.entry?]
  | case4 t u rest h ih =>
    rw [cost_cons, ih, isOption, h]
    exact Nat.zero_add _
  | case5 t u rest name h _ ih =>
    rw [cost_cons, ih, isOption, h]
    exact Nat.add_comm _ _
  | case6 t u rest name h ho ih =>
    rw [cost_cons, cost_cons, ih, isOption, h, Bool.eq_false_iff.mpr ho, Bool.toNat_false,
      Nat.zero_add]
    exact Nat.add_comm _ _

end RemoteShell.Command
