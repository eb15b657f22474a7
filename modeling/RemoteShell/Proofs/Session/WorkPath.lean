import RemoteShell.Proofs.Session.Reached

set_option autoImplicit false

namespace RemoteShell

namespace FileCommand

def onRemote : List FileCommand := [.ls, .stat, .openFile, .read, .cat, .write, .rm]

theorem exists_ask {c : FileCommand} (h : c ∈ onRemote) (workPath : Text) (a : Arguments) :
    ∃ call report, c.plan workPath a = .ask call report ∧ call.path = target workPath a := by
  cases c with
  | pwd | cd => exact absurd h (by decide)
  | ls | stat | openFile | read | cat | write | rm => exact ⟨_, _, rfl, rfl⟩

end FileCommand

namespace Session

open FileCommand

/-- The sessions that lines lead to from a first working path. Between two lines the remote may turn
into any other. -/
inductive Led (path : Text) : Session → Prop where
  | start (c : Connection) : Led path ⟨startPath path, c⟩
  | execute {s : Session} (h : Led path s) (line : Text) (sequence : Int) :
      Led path (s.execute line sequence).1
  | remote {s : Session} (h : Led path s) (c : Connection) : Led path { s with connection := c }

variable {s : Session} {path : Text}

/-- Every line leaves a directory as the working path. -/
theorem isDirectory_execute (h : Path.IsDirectory s.workPath) (line : Text) (sequence : Int) :
    Path.IsDirectory (s.execute line sequence).1.workPath := by
  rcases hline : FileCommand.registry.dispatchLine line with fault | ⟨markup⟩ | ⟨name, c, arguments⟩
  · rw [execute_of_error hline]
    exact h
  · rw [execute_of_say hline]
    exact h
  · rw [execute_of_act hline]
    exact isDirectory_perform h c arguments

theorem Led.isDirectory (h : Led path s) : Path.IsDirectory s.workPath := by
  induction h with
  | start c => exact (Path.isCanonical_root.resolve path).asDirectory
  | execute _ line sequence ih => exact isDirectory_execute ih line sequence
  | remote _ c ih => exact ih

/-- Whatever the first working path, the lines and the replies were, the working path is a directory
below the root, and a command asks for a canonical path whatever path is typed behind it. -/
theorem Led.below_root (h : Led path s) :
    Path.IsDirectory s.workPath ∧
      ∀ c ∈ onRemote, ∀ arguments, ∃ call report, c.plan s.workPath arguments = .ask call report ∧
        call.path = Path.resolve s.workPath (arguments.word pathName []) ∧
        Path.IsCanonical call.path := by
  refine ⟨h.isDirectory, fun c hc arguments => ?_⟩
  obtain ⟨call, report, hplan, hpath⟩ := exists_ask hc s.workPath arguments
  refine ⟨call, report, hplan, hpath, ?_⟩
  rw [hpath]
  exact h.isDirectory.isCanonical.resolve _

theorem below_root_climbed : ∃ s, Led "//a//../b/./".toList s ∧ s.workPath = ['/'] ∧
    ∃ call report, FileCommand.cat.plan s.workPath [(pathName, .word "../x//".toList)] =
      .ask call report ∧ call.path = "/x/".toList ∧ Path.IsCanonical call.path := by
  have hline : FileCommand.registry.dispatchLine "cd ../../../c/..".toList =
      .ok (.act "cd".toList .cd [(pathName, .word "../../../c/..".toList)]) := rfl
  have hstart : Led "//a//../b/./".toList _ := .start ⟨.inMemory, .ofFiles [], [], []⟩
  have hled := hstart.execute "cd ../../../c/..".toList 1
  rw [execute_of_act hline] at hled
  obtain ⟨-, hasks⟩ := Led.below_root hled
  obtain ⟨call, report, hplan, hpath, hcanonical⟩ :=
    hasks .cat (by decide) [(pathName, .word "../x//".toList)]
  exact ⟨_, hled, rfl, call, report, hplan, hpath, hcanonical⟩

end Session

end RemoteShell
