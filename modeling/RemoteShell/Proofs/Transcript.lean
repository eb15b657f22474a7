import RemoteShell.Batch
import RemoteShell.Proofs.Markup.Legible
import RemoteShell.Proofs.Text.Cut

set_option autoImplicit false

namespace RemoteShell

namespace Markup

variable {s : Text}

theorem joins_plain {o : Option Text} (trail : Text) (h : trail.all isPlain = true)
    (hs : Joins o s) : Joins o (trail ++ s) := by
  cases trail with
  | nil => exact hs
  | cons c trail => exact .plain h hs.legible hs.apart

theorem legible_escape_self (t : Text) : Legible none (segments (escape t)) := by
  have h := legible_escape t (Joins.nil none)
  rwa [List.append_nil] at h

theorem legible_around {style : String} (hstyle : style ∈ styles) {lead trail : Text}
    (hlead : lead.all isPlain = true) (t : Text) (htrail : trail.all isPlain = true)
    (hs : Legible none (segments s)) :
    Legible none (segments (tagged style.toList (lead ++ (escape t ++ trail)) ++ s)) := by
  refine legible_tagged (isStyle hstyle) hs fun rest hrest => ?_
  rw [List.append_assoc, List.append_assoc]
  exact legible_plain lead hlead (legible_escape t (joins_plain trail htrail hrest))

theorem legible_quoted {style : String} (hstyle : style ∈ styles) (t : Text)
    (hs : Legible none (segments s)) :
    Legible none (segments (tagged style.toList (escape t) ++ s)) := by
  have h := legible_around hstyle List.all_nil t List.all_nil hs
  rwa [List.nil_append, List.append_nil] at h

theorem legible_label {style : String} (hstyle : style ∈ styles) {label : Text}
    (hlabel : label.all isPlain = true) (hs : Legible none (segments s)) :
    Legible none (segments (tagged style.toList label ++ s)) :=
  legible_tagged (isStyle hstyle) hs fun _ hrest => legible_plain label hlabel hrest.legible

structure IsRow (row : Text) : Prop where
  legible : ∀ s, Joins none s → Legible none (segments (row ++ s))
  apart : ∀ s, bracket? (row ++ s) ≠ some ']'

theorem isRow {style inner more : Text} (h : ∀ s, Joins none s →
    Legible none (segments (tagged style inner ++ (more ++ s)))) :
    IsRow (' ' :: ' ' :: tagged style inner ++ more) where
  legible s hs := by
    have hrow := legible_plain [' ', ' '] (by decide) (h s hs)
    simpa using hrow
  apart s := nofun

theorem legible_rows {rows : List Text} (h : ∀ row ∈ rows, IsRow row) (hs : Joins none s) :
    Legible none (segments (Text.glue ['\n'] rows ++ s)) ∧
      bracket? (Text.glue ['\n'] rows ++ s) ≠ some ']' := by
  induction rows with
  | nil => exact ⟨hs.legible, hs.apart⟩
  | cons row rows ih =>
    obtain ⟨hrow, hrows⟩ := List.forall_mem_cons.mp h
    obtain ⟨hlegible, hapart⟩ := ih hrows
    by_cases hnil : rows = []
    · subst hnil
      rw [Text.glue_singleton]
      exact ⟨hrow.legible s hs, hrow.apart s⟩
    · have hjoins : Joins none (['\n'] ++ (Text.glue ['\n'] rows ++ s)) :=
        .plain (by decide) hlegible hapart
      rw [Text.glue_cons_of_ne_nil _ _ hnil, List.append_assoc]
      exact ⟨hrow.legible _ hjoins, hrow.apart _⟩

end Markup

open Markup

namespace Registry

variable {α : Type}

theorem legible_listing (r : Registry α) : Legible none (segments r.listing) := by
  have hrows : ∀ row ∈ r.descriptors.map fun d =>
      ' ' :: ' ' :: tagged "cyan".toList (escape (Text.padRight r.nameWidth d.name)) ++
        ' ' :: ' ' :: escape d.summary, IsRow row := by
    intro row hrow
    obtain ⟨d, -, rfl⟩ := List.mem_map.mp hrow
    refine isRow fun s hs => legible_quoted (by decide) _ ?_
    exact legible_plain [' ', ' '] (by decide) (legible_escape d.summary hs)
  have h := legible_plain "I know commands:\n".toList (by decide)
    (legible_rows hrows (Joins.nil none)).1
  rwa [List.append_nil] at h

theorem legible_details (d : Descriptor (Handler α)) : Legible none (segments (details d)) := by
  rw [details, List.append_assoc]
  refine legible_quoted (by decide) d.usage ?_
  exact legible_plain "\n  ".toList (by decide) (legible_escape_self d.summary)

theorem legible_help (r : Registry α) (command : Text) :
    Legible none (segments (r.help command)) := by
  unfold help
  split
  · exact r.legible_listing
  · split
    · next d _ => exact legible_details d
    · rw [List.append_assoc, List.append_assoc]
      refine legible_plain "command ".toList (by decide) (legible_quoted (by decide) command ?_)
      exact legible_plain " not found.\n".toList (by decide) r.legible_listing

theorem legible_of_say {r : Registry α} {line markup : Text}
    (h : r.dispatchLine line = .ok (.say markup)) : Legible none (segments markup) := by
  unfold dispatchLine at h
  split at h
  · obtain ⟨⟨d, arguments⟩, -, hstep⟩ := Outcome.exists_ok_of_map h
    cases hd : d.handler with
    | help =>
      simp only [hd] at hstep
      cases hstep
      exact r.legible_help _
    | action a => simp [hd] at hstep
  · cases h

end Registry

namespace FileCommand

variable {s : Text}

theorem legible_title {word : String} (hword : word.toList.all isPlain = true) (t : Text)
    (hs : Legible none (segments s)) : Legible none (segments (title word t ++ s)) := by
  have hlead : (word.toList ++ [' ']).all isPlain = true := by
    rw [List.all_append, hword]
    rfl
  have hbold : "bold" ∈ styles := by decide
  have h := legible_around hbold hlead t List.all_nil hs
  simpa [title] using h

theorem isRow_entryRow (e : Entry) : IsRow (entryRow e) := by
  obtain ⟨style, hstyle, hentry⟩ :
      ∃ style : String, style ∈ styles ∧ entryStyle e.type = style.toList := by
    unfold entryStyle
    split
    · exact ⟨"bold cyan", by decide, rfl⟩
    · exact ⟨"white", by decide, rfl⟩
  obtain ⟨state, hstate, hrow⟩ : ∃ state : String, state.toList.all isPlain = true ∧
      entryRow e = ' ' :: ' ' :: tagged style.toList (escape e.path) ++ ' ' :: tagged "dim".toList
        (['('] ++ (escape e.type ++ (", ".toList ++ state.toList ++ [')']))) := by
    rw [← hentry]
    cases hopen : e.isOpen
    · exact ⟨"closed", by decide, by simp [entryRow, hopen]⟩
    · exact ⟨"open", by decide, by simp [entryRow, hopen]⟩
  rw [hrow]
  refine isRow fun s hs => legible_quoted hstyle e.path ?_
  refine legible_plain [' '] (by decide) ?_
  have htrail : (", ".toList ++ state.toList ++ [')']).all isPlain = true := by
    rw [List.all_append, List.all_append, hstate]
    rfl
  exact legible_around (by decide) (by decide) e.type htrail hs.legible

theorem legible_listing (t : Text) (entries : List Entry) :
    Legible none (segments (listing t entries)) := by
  refine legible_title (by decide) t (legible_plain ['\n'] (by decide) ?_)
  have hempty : IsRow ("  ".toList ++ tagged "dim".toList "(empty)".toList ++ []) :=
    isRow fun s hs => legible_label (by decide) (by decide) hs.legible
  have hrows : ∀ row ∈ (if entries.isEmpty then
      ["  ".toList ++ tagged "dim".toList "(empty)".toList] else entries.map entryRow),
      IsRow row := by
    split
    · simpa using hempty
    · intro row hrow
      obtain ⟨e, -, rfl⟩ := List.mem_map.mp hrow
      exact isRow_entryRow e
  have h := (legible_rows hrows (Joins.nil none)).1
  rwa [List.append_nil] at h

theorem legible_details (t : Text) (info : Value) : Legible none (segments (details t info)) :=
  legible_title (by decide) t (legible_plain ['\n'] (by decide) (legible_escape_self _))

theorem legible_content (t text : Text) : Legible none (segments (content t text)) :=
  legible_title (by decide) t (legible_plain ['\n'] (by decide) (legible_escape_self text))

end FileCommand

def Plan.IsLegible : Plan → Prop
  | .say markup | .move _ markup => Legible none (segments markup)
  | .ask _ report => ∀ r markup, report r = .ok markup → Legible none (segments markup)

theorem FileCommand.isLegible_plan (c : FileCommand) (workPath : Text) (a : Arguments) :
    (c.plan workPath a).IsLegible := by
  have htitle {word : String} (hword : word.toList.all isPlain = true) (t : Text) :
      Legible none (segments (title word t)) := by
    have h := legible_title (s := []) hword t (.nil none)
    rwa [List.append_nil] at h
  cases c with
  | pwd | cd => exact legible_escape_self _
  | ls =>
    intro r markup h
    obtain ⟨entries, -, rfl⟩ := Outcome.exists_ok_of_map h
    exact legible_listing _ entries
  | stat =>
    intro r markup h
    obtain ⟨info, -, rfl⟩ := Outcome.exists_ok_of_map h
    exact legible_details _ info
  | openFile | write | rm =>
    rintro r _ ⟨⟩
    exact htitle (by decide) _
  | read | cat =>
    rintro r _ ⟨⟩
    exact legible_content _ r.text

namespace Session

variable {s s' : Session}

theorem isLegible_plan {line : Text} {plan : Plan} (h : s.plan line = .ok plan) :
    plan.IsLegible := by
  obtain ⟨step, hstep, rfl⟩ := Outcome.exists_ok_of_map h
  cases step with
  | say markup => exact Registry.legible_of_say hstep
  | act _ c arguments => exact c.isLegible_plan s.workPath arguments

theorem legible_of_perform {plan : Plan} (hplan : plan.IsLegible) {markup : Text}
    (h : s.perform plan = (s', some (.ok markup))) : Legible none (segments markup) := by
  cases plan with
  | say | move =>
    cases h
    exact hplan
  | ask call report =>
    obtain ⟨response, -, hreport⟩ := Option.map_eq_some_iff.mp (congrArg Prod.snd h)
    obtain ⟨r, -, hr⟩ := Outcome.exists_ok_of_bind hreport
    exact hplan r markup hr

theorem legible_of_execute {line : Text} {sequence : Int} {r : Result}
    (h : s.execute line sequence = (s', some r)) (hr : r.isError = false) :
    Legible none (segments r.markup) := by
  unfold execute at h
  split at h
  · cases h
    cases hr
  · next plan hplan =>
    obtain ⟨outcome, hperform, rfl⟩ := Option.map_eq_some_iff.mp (congrArg Prod.snd h)
    cases outcome with
    | error fault => cases hr
    | ok markup => exact legible_of_perform (isLegible_plan hplan) (Prod.ext rfl hperform)

end Session

namespace Transcript

theorem legible_input (line : Text) : Legible none (segments (input line)) := by
  refine legible_label (by decide) (by decide) ?_
  exact legible_plain [' '] (by decide) (legible_escape_self line)

theorem legible_error (message : Text) : Legible none (segments (error message)) := by
  refine legible_label (by decide) (by decide) ?_
  exact legible_plain [' '] (by decide) (legible_escape_self message)

theorem exists_echo (width : Nat) (line : Text) :
    ∃ text, Console.print width (input line) = .ok text :=
  Console.exists_print (legible_input line) width

end Transcript

/-- Every result of a line can be shown. -/
theorem Session.exists_shown {s s' : Session} {line : Text} {sequence : Int} {r : Result}
    (h : s.execute line sequence = (s', some r)) (width : Nat) :
    ∃ text, r.shown width = .ok text := by
  unfold Result.shown Transcript.result?
  cases hr : r.isError with
  | true => exact Console.exists_print (Transcript.legible_error r.markup) width
  | false =>
    by_cases hempty : r.markup.isEmpty
    · exact ⟨[], by simp [hempty]⟩
    · have hprint := Console.exists_print (Session.legible_of_execute h hr) width
      simpa [hempty] using hprint

end RemoteShell
