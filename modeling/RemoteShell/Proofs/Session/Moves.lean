import RemoteShell.Proofs.Path.Resolved
import RemoteShell.Proofs.Session.WorkPath

set_option autoImplicit false

namespace RemoteShell

open FileCommand

namespace Arguments

variable (path default : Text) (a : Arguments)

def along : Arguments := Assoc.put pathName (.word path) a

theorem word_along : (a.along path).word pathName default = path := by
  simp [along, word, word?]

theorem content_along : (a.along path).word contentName default = a.word contentName default := by
  have hne : pathName ≠ contentName := by decide
  simp [along, word, word?, hne]

theorem options_along : (a.along path).options = a.options := by
  have hne : pathName ≠ "options".toList := by decide
  unfold along options
  rw [Assoc.get?_put, if_neg hne]

end Arguments

/-- Paths that resolve to the same target make the same plan. -/
theorem FileCommand.plan_along {c : FileCommand} (h : c ∈ onRemote)
    {workPath path workPath' path' : Text}
    (hresolve : Path.resolve workPath path = Path.resolve workPath' path') (a : Arguments) :
    c.plan workPath (a.along path) = c.plan workPath' (a.along path') := by
  have htarget : target workPath (a.along path) = target workPath' (a.along path') := by
    rw [target, target, Arguments.word_along, Arguments.word_along, hresolve]
  cases c with
  | pwd | cd => exact absurd h (by decide)
  | ls | stat | openFile | read | cat | write | rm =>
    simp only [plan, htarget, Arguments.content_along, Arguments.options_along]

namespace Session

def give (s : Session) (c : FileCommand) (a : Arguments) : Session × Option (Except Fault Text) :=
  s.perform (c.plan s.workPath a)

def enter (s : Session) (path : Text) : Session := (s.give .cd [(pathName, .word path)]).1

variable {s : Session}

theorem enter_eq (s : Session) (path : Text) :
    s.enter path = { s with workPath := Path.enter s.workPath path } := rfl

theorem foldl_enter_eq (s : Session) (steps : List Text) :
    steps.foldl enter s = { s with workPath := steps.foldl Path.enter s.workPath } := by
  induction steps generalizing s with
  | nil => rfl
  | cons p rest ih => rw [List.foldl_cons, ih, enter_eq, List.foldl_cons]

theorem execute_of_cd {line name path : Text} {a : Arguments}
    (hline : FileCommand.registry.dispatchLine line = .ok (.act name .cd (a.along path)))
    (sequence : Int) : (s.execute line sequence).1 = s.enter path := by
  rw [execute_of_act hline, enter_eq, FileCommand.plan, Arguments.word_along]
  rfl

theorem perform_ask_congr {s' : Session} (h : s.connection = s'.connection) (call : Call)
    (report : Response → Except Fault Text) :
    (s.perform (.ask call report)).1.connection = (s'.perform (.ask call report)).1.connection ∧
      (s.perform (.ask call report)).2 = (s'.perform (.ask call report)).2 := by
  simp only [perform, h, and_self]

/-- Moving along one path and then along a relative one is moving along the two glued together. A
command on the remote that names the relative path after the move has the target of the glued path
before it. So both ask the same, with the same answer and the same remote afterwards. A way in
relative steps is one move along the path glued from them. -/
theorem enter_steps (h : Path.IsDirectory s.workPath) :
    (∀ a b, a ≠ [] → b ≠ [] → Path.isAbsolute b = false →
      (s.enter a).enter b = s.enter (a ++ '/' :: b) ∧
        ∀ c ∈ onRemote, ∀ x : Arguments,
          target (s.enter a).workPath (x.along b) = target s.workPath (x.along (a ++ '/' :: b)) ∧
          (∃ call report, c.plan (s.enter a).workPath (x.along b) = .ask call report ∧
            c.plan s.workPath (x.along (a ++ '/' :: b)) = .ask call report) ∧
          ((s.enter a).give c (x.along b)).1.connection =
            (s.give c (x.along (a ++ '/' :: b))).1.connection ∧
          ((s.enter a).give c (x.along b)).2 = (s.give c (x.along (a ++ '/' :: b))).2) ∧
      ∀ steps, (∀ p ∈ steps, p ≠ [] ∧ Path.isAbsolute p = false) →
        steps.foldl enter s = s.enter (Text.glue ['/'] steps) := by
  have hrooted := h.isCanonical.head?
  refine ⟨fun a b ha hb hrelative => ⟨?_, fun c hc x => ?_⟩, fun steps hsteps => ?_⟩
  · simp only [enter_eq, Path.enter_enter hrooted ha hb hrelative]
  · have hresolve := Path.resolve_enter hrooted ha hb hrelative
    have hplan := plan_along hc hresolve x
    obtain ⟨call, report, hask, -⟩ := exists_ask hc s.workPath (x.along (a ++ '/' :: b))
    refine ⟨?_, ⟨call, report, hplan.trans hask, hask⟩, ?_⟩
    · rw [enter_eq, target, target, Arguments.word_along, Arguments.word_along, hresolve]
    · rw [give, give, enter_eq, hplan, hask]
      exact perform_ask_congr rfl call report
  · rw [foldl_enter_eq, Path.foldl_enter h hsteps, enter_eq]

theorem enter_steps_climbed : ∃ s s' : Session, s.workPath = "/docs/".toList ∧
    s' = (s.execute "cd ../a//".toList 1).1 ∧
    (s'.execute "cd ../../b/.".toList 2).1 = (s.execute "cd ../a///../../b/.".toList 2).1 ∧
    (s'.execute "write ../n 'x y' --raw".toList 2).1.connection =
      (s.execute "write ../a///../n 'x y' --raw".toList 2).1.connection ∧
    ["..".toList, "a/".toList, "b".toList].foldl enter s = s.enter "../a//b".toList := by
  have hcd (path : Text) (line : Text) (hline : FileCommand.registry.dispatchLine line =
      .ok (.act "cd".toList .cd (Arguments.along path []))) (s : Session) (sequence : Int) :
      (s.execute line sequence).1 = s.enter path := execute_of_cd hline sequence
  have hfirst := hcd "../a//".toList "cd ../a//".toList rfl
  have hsecond := hcd "../../b/.".toList "cd ../../b/.".toList rfl
  have hglued := hcd "../a///../../b/.".toList "cd ../a///../../b/.".toList rfl
  let others : Arguments := [(pathName, .word []), (contentName, .word "x y".toList),
    ("options".toList, .options [("raw".toList, .bool true)])]
  have hwrites : FileCommand.registry.dispatchLine "write ../n 'x y' --raw".toList =
      .ok (.act "write".toList .write (others.along "../n".toList)) := rfl
  have hwritesGlued : FileCommand.registry.dispatchLine
      "write ../a///../n 'x y' --raw".toList =
      .ok (.act "write".toList .write (others.along "../a///../n".toList)) := rfl
  obtain ⟨s, hs, hdirectory⟩ :
      ∃ s : Session, s.workPath = "/docs/".toList ∧ Path.IsDirectory s.workPath :=
    ⟨.start .inMemory [] "docs".toList, rfl, (isSound_start [] _).directory⟩
  obtain ⟨hsteps, hway⟩ := enter_steps hdirectory
  obtain ⟨hmove, -⟩ := hsteps "../a//".toList "../../b/.".toList (by decide) (by decide) (by decide)
  obtain ⟨-, hwrite⟩ := hsteps "../a//".toList "../n".toList (by decide) (by decide) (by decide)
  obtain ⟨-, -, hconnection, -⟩ := hwrite .write (by decide) others
  refine ⟨s, s.enter "../a//".toList, hs, (hfirst s 1).symm, ?_, ?_, hway _ (by decide)⟩
  · rw [hsecond, hglued]
    exact hmove
  · rw [execute_of_act hwrites, execute_of_act hwritesGlued]
    exact hconnection

end Session

end RemoteShell
