import RemoteShell.Proofs.Descriptor
import RemoteShell.Proofs.Shell

/-! Registries from their first call on. Names stay apart, the first call for a name counts, and a
frozen registry has its fallback and changes no more. A command on a frozen registry therefore comes
to one handler, or to the refusal of its words. -/

set_option autoImplicit false

namespace RemoteShell.Registry

variable {α : Type}

inductive Change (α : Type) where
  | register (d : Descriptor (Handler α))
  | freeze

def Change.name? : Change α → Option Text
  | .register d => some d.name
  | .freeze => none

def Change.apply (r : Registry α) : Change α → Except Refusal (Registry α)
  | .register d => r.register d
  | .freeze => r.freeze

/-- A registry, and the calls it had so far with their refusals. -/
structure Course (α : Type) where
  registry : Registry α
  log : List (Change α × Option Refusal)

namespace Course

def start (fallback : Text) : Course α := ⟨.empty fallback, []⟩

/-- The caller of a refused call is left with the registry as it was. -/
def attempt (c : Course α) (change : Change α) : Course α :=
  match change.apply c.registry with
  | .ok r => ⟨r, c.log ++ [(change, none)]⟩
  | .error why => ⟨c.registry, c.log ++ [(change, some why)]⟩

def run (fallback : Text) (changes : List (Change α)) : Course α :=
  changes.foldl attempt (start fallback)

def registered (log : List (Change α × Option Refusal)) : List (Descriptor (Handler α)) :=
  log.filterMap fun
    | (.register d, none) => some d
    | _ => none

theorem attempt_cases (c : Course α) (change : Change α) :
    (∃ d, change = .register d ∧ c.registry.isFrozen = false ∧ c.registry.get? d.name = none ∧
      c.attempt change = ⟨{ c.registry with descriptors := c.registry.descriptors ++ [d] },
        c.log ++ [(.register d, none)]⟩) ∨
    (change = .freeze ∧ c.registry.contains c.registry.fallback = true ∧
      c.attempt change = ⟨{ c.registry with isFrozen := true }, c.log ++ [(.freeze, none)]⟩) ∨
    (∃ why, (∀ d, change = .register d →
        c.registry.isFrozen = true ∨ c.registry.contains d.name = true) ∧
      c.attempt change = ⟨c.registry, c.log ++ [(change, some why)]⟩) := by
  cases change with
  | register d =>
    by_cases hfrozen : c.registry.isFrozen = true
    · refine .inr (.inr ⟨.frozen, fun _ _ => .inl hfrozen, ?_⟩)
      simp only [attempt, Change.apply, register, hfrozen, if_true]
    · by_cases hname : c.registry.contains d.name = true
      · refine .inr (.inr ⟨.registered d.name, fun e he => .inr ?_, ?_⟩)
        · cases he
          exact hname
        · simp only [attempt, Change.apply, register, if_neg hfrozen, if_pos hname]
      · refine .inl ⟨d, rfl, Bool.eq_false_iff.mpr hfrozen, ?_, ?_⟩
        · exact Option.not_isSome_iff_eq_none.mp hname
        · simp only [attempt, Change.apply, register, if_neg hfrozen, if_neg hname]
  | freeze =>
    by_cases hname : c.registry.contains c.registry.fallback = true
    · refine .inr (.inl ⟨rfl, hname, ?_⟩)
      simp only [attempt, Change.apply, freeze, if_pos hname]
    · refine .inr (.inr ⟨.noFallback c.registry.fallback, nofun, ?_⟩)
      simp only [attempt, Change.apply, freeze, if_neg hname]

theorem attempt_of_error {c : Course α} {change : Change α} {why : Refusal}
    (h : change.apply c.registry = .error why) : (c.attempt change).registry = c.registry := by
  simp only [attempt, h]

theorem map_fst_log_attempt (c : Course α) (change : Change α) :
    (c.attempt change).log.map Prod.fst = c.log.map Prod.fst ++ [change] := by
  unfold attempt
  split <;> simp

theorem run_concat (fallback : Text) (changes : List (Change α)) (change : Change α) :
    run fallback (changes ++ [change]) = (run fallback changes).attempt change := by
  rw [run, List.foldl_append]
  rfl

/-- A registry that its log accounts for. -/
structure Sound (fallback : Text) (c : Course α) : Prop where
  fallback_eq : c.registry.fallback = fallback
  descriptors : c.registry.descriptors = registered c.log
  distinct : c.registry.names.Nodup
  /-- A name is looked up as in the first call for it, if that was not refused. -/
  first : ∀ name d, c.registry.get? name = some d ↔
    (c.log.find? fun e => e.1.name? == some name) = some (.register d, none)
  /-- The only refusal before freezing is that of a name which is there. -/
  refused : c.registry.isFrozen = false → ∀ d why, (.register d, why) ∈ c.log →
    c.registry.contains d.name = true
  frozen : c.registry.isFrozen = true ↔ (.freeze, none) ∈ c.log
  closed : c.registry.isFrozen = true → c.registry.contains fallback = true

end Course

theorem get?_concat (r : Registry α) (d : Descriptor (Handler α)) (name : Text) :
    ({ r with descriptors := r.descriptors ++ [d] } : Registry α).get? name =
      (r.get? name).or (if d.name = name then some d else none) := by
  simp only [get?, List.find?_append, List.find?_singleton, beq_iff_eq]

theorem get?_eq_none_iff {r : Registry α} {name : Text} :
    r.get? name = none ↔ name ∉ r.names := by
  simp [get?, names]

namespace Course

variable {fallback : Text} {c : Course α}

theorem sound_start (fallback : Text) : (start fallback : Course α).Sound fallback where
  fallback_eq := rfl
  descriptors := rfl
  distinct := List.nodup_nil
  first := by intros; exact ⟨nofun, nofun⟩
  refused := nofun
  frozen := ⟨nofun, nofun⟩
  closed := nofun

/-- Before freezing, every call for a name that is not there was for another one. -/
theorem Sound.find?_eq_none (h : c.Sound fallback) (hopen : c.registry.isFrozen = false)
    {name : Text} (hname : c.registry.get? name = none) :
    (c.log.find? fun e => e.1.name? == some name) = none := by
  rw [List.find?_eq_none]
  rintro ⟨change, why⟩ hmem hcall
  cases change with
  | freeze => cases hcall
  | register d =>
    have hd : d.name = name := by simpa [Change.name?] using hcall
    have hin := h.refused hopen d why hmem
    rw [contains, hd, hname] at hin
    cases hin

theorem Sound.first_concat (h : c.Sound fallback) {e : Change α × Option Refusal}
    (he : ∀ d, e ≠ (.register d, none)) (name : Text) (d : Descriptor (Handler α)) :
    c.registry.get? name = some d ↔
      ((c.log ++ [e]).find? fun e => e.1.name? == some name) = some (.register d, none) := by
  rw [h.first, List.find?_append]
  cases c.log.find? fun e => e.1.name? == some name with
  | some => rfl
  | none =>
    rw [Option.none_or, List.find?_singleton]
    refine ⟨nofun, fun hlast => absurd ?_ (he d)⟩
    split at hlast
    · exact Option.some.inj hlast
    · cases hlast

theorem Sound.register (h : c.Sound fallback) {d : Descriptor (Handler α)}
    (hopen : c.registry.isFrozen = false) (hname : c.registry.get? d.name = none) :
    Sound fallback ⟨{ c.registry with descriptors := c.registry.descriptors ++ [d] },
      c.log ++ [(.register d, none)]⟩ where
  fallback_eq := h.fallback_eq
  descriptors := by
    rw [registered, List.filterMap_append, ← registered, ← h.descriptors]
    rfl
  distinct := by
    rw [names, List.map_append]
    refine List.nodup_append.mpr ⟨h.distinct, List.pairwise_singleton _ _, ?_⟩
    rintro name hin _ hd rfl
    rw [List.mem_singleton.mp hd] at hin
    exact get?_eq_none_iff.mp hname hin
  first name e := by
    rw [get?_concat, List.find?_append]
    -- A name that is there has its first call already. One that is not there had none.
    cases hget : c.registry.get? name with
    | some e' => rw [(h.first name e').mp hget]; simp
    | none =>
      by_cases hd : d.name = name
      · rw [h.find?_eq_none hopen hget]
        simp [Change.name?, hd]
      · have hfirst := h.first name e
        rw [hget] at hfirst
        simpa [Change.name?, hd] using hfirst
  refused _ e why hmem := by
    rw [contains, get?_concat]
    rcases List.mem_append.mp hmem with hbefore | hlast
    · have hin := h.refused hopen e why hbefore
      rw [contains] at hin
      rw [Option.isSome_or, hin, Bool.true_or]
    · cases List.mem_singleton.mp hlast
      simp
  frozen := by simpa using h.frozen
  closed hfrozen := by simp [hopen] at hfrozen

theorem Sound.freeze (h : c.Sound fallback)
    (hfallback : c.registry.contains c.registry.fallback = true) :
    Sound fallback ⟨{ c.registry with isFrozen := true }, c.log ++ [(.freeze, none)]⟩ where
  fallback_eq := h.fallback_eq
  descriptors := by
    rw [registered, List.filterMap_append, ← registered, ← h.descriptors]
    exact (List.append_nil _).symm
  distinct := h.distinct
  first := h.first_concat nofun
  refused := nofun
  frozen := by simp
  closed _ := h.fallback_eq ▸ hfallback

theorem Sound.refuse (h : c.Sound fallback) {change : Change α} (why : Refusal)
    (hwhy : ∀ d, change = .register d →
      c.registry.isFrozen = true ∨ c.registry.contains d.name = true) :
    Sound fallback ⟨c.registry, c.log ++ [(change, some why)]⟩ where
  fallback_eq := h.fallback_eq
  descriptors := by
    rw [registered, List.filterMap_append, ← registered, ← h.descriptors]
    cases change <;> exact (List.append_nil _).symm
  distinct := h.distinct
  first := h.first_concat nofun
  refused hopen d o hmem := by
    rcases List.mem_append.mp hmem with hbefore | hlast
    · exact h.refused hopen d o hbefore
    · cases List.mem_singleton.mp hlast
      exact (hwhy d rfl).resolve_left (Bool.eq_false_iff.mp hopen)
  frozen := by simpa using h.frozen
  closed := h.closed

theorem Sound.attempt (h : c.Sound fallback) (change : Change α) :
    (c.attempt change).Sound fallback := by
  obtain ⟨d, -, hopen, hname, heq⟩ | ⟨-, hfallback, heq⟩ | ⟨why, hwhy, heq⟩ :=
    attempt_cases c change <;> rw [heq]
  · exact h.register hopen hname
  · exact h.freeze hfallback
  · exact h.refuse why hwhy

theorem sound_run (fallback : Text) (changes : List (Change α)) :
    (run fallback changes).Sound fallback := by
  have hrun (c : Course α) (hc : c.Sound fallback) :
      (changes.foldl Course.attempt c).Sound fallback := by
    induction changes generalizing c with
    | nil => exact hc
    | cons change rest ih => exact ih _ (hc.attempt change)
  exact hrun _ (sound_start fallback)

theorem map_fst_log_run (fallback : Text) (changes : List (Change α)) :
    (run fallback changes).log.map Prod.fst = changes := by
  have hrun (c : Course α) :
      (changes.foldl Course.attempt c).log.map Prod.fst = c.log.map Prod.fst ++ changes := by
    induction changes generalizing c with
    | nil => exact (List.append_nil _).symm
    | cons change rest ih => rw [List.foldl_cons, ih, map_fst_log_attempt, List.append_assoc]; rfl
  exact hrun _

theorem attempt_of_frozen (h : c.registry.isFrozen = true) (change : Change α) :
    (c.attempt change).registry = c.registry := by
  obtain ⟨d, -, hopen, -⟩ | ⟨-, -, heq⟩ | ⟨why, -, heq⟩ := attempt_cases c change
  · rw [h] at hopen
    cases hopen
  · rw [heq, ← h]
  · rw [heq]

theorem run_append_of_frozen {changes : List (Change α)}
    (h : (run fallback changes).registry.isFrozen = true) (later : List (Change α)) :
    (run fallback (changes ++ later)).registry = (run fallback changes).registry := by
  have hlater (c : Course α) (hc : c.registry.isFrozen = true) :
      (later.foldl Course.attempt c).registry = c.registry := by
    induction later generalizing c with
    | nil => rfl
    | cons change rest ih =>
      have hsame := attempt_of_frozen hc change
      rw [List.foldl_cons, ih _ (hsame ▸ hc), hsame]
  rw [run, List.foldl_append]
  exact hlater _ h

end Course

inductive Goes (r : Registry α) (c : Command) : Descriptor (Handler α) → List Text → Prop where
  | named {d : Descriptor (Handler α)} (h : r.get? c.name = some d) : Goes r c d c.positionals
  | unknown {d : Descriptor (Handler α)} (hname : r.get? c.name = none)
      (h : r.get? r.fallback = some d) : Goes r c d (c.name :: c.positionals)

def call (r : Registry α) (d : Descriptor (Handler α)) (a : Arguments) : Step α :=
  match d.handler with
  | .help => .say (r.help (a.word "command".toList []))
  | .action handler => .act d.name handler a

variable {r : Registry α} {c : Command} {d : Descriptor (Handler α)} {words : List Text}

theorem Goes.dispatch_eq (h : r.Goes c d words) :
    r.dispatch c = (d.bind words c.options).map (r.call d) := by
  have hroute : r.route c = (d.bind words c.options).map fun a => (d, a) := by
    cases h with
    | named h => rw [route, h]
    | unknown hname h => rw [route, hname, fallback?, h]
  rw [dispatch, hroute]
  cases d.bind words c.options <;> rfl

theorem exists_goes (h : r.contains r.fallback = true) (c : Command) :
    ∃ d words, r.Goes c d words := by
  cases hname : r.get? c.name with
  | some d => exact ⟨d, _, .named hname⟩
  | none =>
    obtain ⟨d, hd⟩ := Option.isSome_iff_exists.mp h
    exact ⟨d, _, .unknown hname hd⟩

/-- A command comes to one call of one handler, or its words are refused and to none. -/
inductive ComesTo (r : Registry α) (c : Command) : Except Fault (Step α) → Prop where
  | called {d : Descriptor (Handler α)} {words : List Text} {a : Arguments}
      (way : r.Goes c d words) (bound : d.bind words c.options = .ok a) :
      ComesTo r c (.ok (r.call d a))
  | refused {d : Descriptor (Handler α)} {words : List Text} {why : Misuse}
      (way : r.Goes c d words)
      (unbound : d.bind words c.options = .error (.misuse d.name why d.usage)) :
      ComesTo r c (.error (.misuse d.name why d.usage))

theorem Goes.comesTo (h : r.Goes c d words) : r.ComesTo c (r.dispatch c) := by
  rw [h.dispatch_eq]
  cases hbind : d.bind words c.options with
  | ok a => exact .called h hbind
  | error fault =>
    obtain ⟨why, rfl⟩ := Descriptor.misuse_of_bind hbind
    exact .refused h hbind

theorem bind_helpDescriptor (word : Text) (words : List Text) (options : Assoc Value) :
    (helpDescriptor : Descriptor (Handler α)).bind (word :: words) options =
      .ok [("command".toList, .word word), ("args".toList, .words words)] := by
  have hdistinct : (helpDescriptor : Descriptor (Handler α)).IsDistinct :=
    show (["command".toList, "args".toList, "options".toList]).Nodup by decide
  rw [hdistinct.bind_of_fits ⟨Nat.zero_le _, nofun⟩]
  rfl

theorem dispatch_unknown (hname : r.get? c.name = none)
    (hhelp : r.get? r.fallback = some helpDescriptor) :
    r.dispatch c = .ok (.say (r.help c.name)) := by
  rw [(Goes.unknown hname hhelp).dispatch_eq, bind_helpDescriptor]
  rfl

theorem dispatchLine_of_tokens {line : Text} {tokens : List Text}
    (h : Line.tokens line = .ok tokens) :
    r.dispatchLine line = r.dispatch (.ofTokens tokens) := by
  rw [dispatchLine, Command.ofLine, h]
  rfl

theorem executes_unknown {σ τ : Type} {sh : Shell σ α τ} {s s' : σ} {item : Submission}
    {result : Result} {tokens : List Text} (htokens : Line.tokens item.line = .ok tokens)
    (hname : sh.registry.get? (Command.ofTokens tokens).name = none)
    (hhelp : sh.registry.get? sh.registry.fallback = some helpDescriptor) :
    sh.Executes s item s' result ↔ s' = s ∧
      result = ⟨sh.registry.help (Command.ofTokens tokens).name, false, item.sequence, item.line⟩ := by
  have hline := dispatchLine_of_tokens (r := sh.registry) htokens
  rw [dispatch_unknown hname hhelp] at hline
  rw [Shell.Executes, Shell.begin_of_say hline]
  constructor
  · rintro ⟨outcome, hruns, rfl⟩
    obtain ⟨rfl, rfl⟩ := Shell.runs_finished.mp hruns
    exact ⟨rfl, rfl⟩
  · rintro ⟨rfl, rfl⟩
    exact ⟨_, Shell.runs_finished.mpr ⟨rfl, rfl⟩, rfl⟩

/-- Whatever calls a registry had, its log accounts for it, and a refused call has changed nothing.
Once frozen it changes no more, and every command comes to one handler, under its own name or as the
fallback, unless its words are refused. If the fallback is help, an unknown name is no error. -/
theorem run_routes (fallback : Text) (changes : List (Change α)) :
    let c := Course.run fallback changes
    c.log.map Prod.fst = changes ∧ c.Sound fallback ∧
      (∀ change why, change.apply c.registry = .error why →
        (Course.run fallback (changes ++ [change])).registry = c.registry) ∧
      (c.registry.isFrozen = true →
        (∀ later, (Course.run fallback (changes ++ later)).registry = c.registry) ∧
        (∀ command, c.registry.ComesTo command (c.registry.dispatch command)) ∧
        (c.registry.get? fallback = some helpDescriptor →
          ∀ (σ τ : Type) (sh : Shell σ α τ), sh.registry = c.registry →
          ∀ (item : Submission) tokens, Line.tokens item.line = .ok tokens →
          c.registry.get? (Command.ofTokens tokens).name = none →
          ∀ s s' result, sh.Executes s item s' result ↔ s' = s ∧ result =
            ⟨c.registry.help (Command.ofTokens tokens).name, false, item.sequence, item.line⟩)) := by
  intro c
  have hsound : c.Sound fallback := Course.sound_run fallback changes
  refine ⟨Course.map_fst_log_run fallback changes, hsound, fun change why hwhy => ?_,
    fun hfrozen => ⟨Course.run_append_of_frozen hfrozen, fun command => ?_, ?_⟩⟩
  · rw [Course.run_concat]
    exact Course.attempt_of_error hwhy
  · have hfallback := hsound.closed hfrozen
    rw [← hsound.fallback_eq] at hfallback
    obtain ⟨d, words, hgoes⟩ := exists_goes hfallback command
    exact hgoes.comesTo
  · intro hhelp σ τ sh hsh item tokens htokens hname s s' result
    rw [← hsh] at hhelp hname ⊢
    refine executes_unknown htokens hname ?_
    rwa [hsh, hsound.fallback_eq, ← hsh]

/-- The commands on files are a registry of this kind. -/
theorem registry_run_files : (Course.run helpName
      ((FileCommand.descriptors ++ [helpDescriptor]).map .register ++ [.freeze])).registry =
    FileCommand.registry := rfl

end RemoteShell.Registry
