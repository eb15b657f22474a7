import RemoteShell.FileCommand
import RemoteShell.Proofs.Outcome
import RemoteShell.Proofs.Text.Digits

set_option autoImplicit false

namespace RemoteShell

open List (append_ne_nil_of_left_ne_nil append_ne_nil_of_right_ne_nil)

theorem Url.Fault.message_ne_nil (f : Url.Fault) : f.message ≠ [] := by
  cases f with
  | control c index =>
    unfold Url.Fault.message
    exact append_ne_nil_of_right_ne_nil _ (List.cons_ne_nil _ _)
  | address | longAddress | domain | port => exact append_ne_nil_of_left_ne_nil (by decide) _
  | relativeSlashes | relativeColon | absolutePath => decide

theorem Json.Fault.message_ne_nil (f : Json.Fault) : f.message ≠ [] := by
  cases f with
  | malformed problem place => exact append_ne_nil_of_right_ne_nil _ (List.cons_ne_nil _ _)
  | longInteger digits => exact append_ne_nil_of_right_ne_nil _ (by decide)

theorem Encoding.Fault.message_ne_nil (f : Encoding.Fault) : f.message ≠ [] :=
  append_ne_nil_of_right_ne_nil _ (List.cons_ne_nil _ _)

namespace Fault

/-- A kind that is shown in place of a message is not empty itself. -/
def IsNamed : Fault → Prop
  | .unreachable kind _ | .raised kind _ => kind ≠ []
  | _ => True

theorem shown_raised (kind : Text) {message : Text} (h : message ≠ []) :
    (raised kind message).shown = message :=
  if_neg fun hempty => h (List.isEmpty_iff.mp hempty)

theorem shown_ne_nil {f : Fault} (h : f.IsNamed) : f.shown ≠ [] := by
  cases f with
  | unreachable kind message | raised kind message =>
    change (if message.isEmpty then kind else message) ≠ []
    split
    · exact h
    · next hm => exact fun h => hm (List.isEmpty_iff.mpr h)
  | refused status reason path =>
    change (if reason.isEmpty then _ ++ Text.ofNat status else reason) ≠ []
    split
    · exact append_ne_nil_of_right_ne_nil _ (Text.ofNat_ne_nil status)
    · next hr => exact fun h => hr (List.isEmpty_iff.mpr h)
  | badUrl f => exact f.message_ne_nil
  | badJson f => exact f.message_ne_nil
  | undecodable f => exact f.message_ne_nil
  | openQuote | untypedUrl | longName => exact append_ne_nil_of_left_ne_nil (by decide) _
  | misuse command why usage =>
    unfold shown message
    exact append_ne_nil_of_left_ne_nil (append_ne_nil_of_right_ne_nil _ (by decide)) _
  | noMembers | noFields => exact append_ne_nil_of_right_ne_nil _ (by decide)
  | noFallback name => exact List.cons_ne_nil _ _

end Fault

open Outcome

theorem Descriptor.isNamed_bind {α : Type} {d : Descriptor α} {positionals : List Text}
    {options : Assoc Value} {fault : Fault} (h : d.bind positionals options = .error fault) :
    fault.IsNamed := by
  unfold Descriptor.bind at h
  split at h
  · cases h; trivial
  · split at h
    · cases h; trivial
    · cases h

theorem Registry.isNamed_dispatchLine {α : Type} {r : Registry α} {line : Text} {fault : Fault}
    (h : r.dispatchLine line = .error fault) : fault.IsNamed := by
  unfold Registry.dispatchLine at h
  split at h
  · unfold Registry.dispatch Registry.route at h
    replace h := error_of_map h
    split at h
    · exact Descriptor.isNamed_bind (error_of_map h)
    · split at h
      · exact Descriptor.isNamed_bind (error_of_map h)
      · next hf =>
        unfold Registry.fallback? at hf
        split at hf
        · cases hf
        · cases hf; cases h; trivial
  · cases h; trivial

theorem Response.isNamed_json {r : Response} {fault : Fault} (h : r.json = .error fault) :
    fault.IsNamed := by
  unfold Response.json at h
  split at h
  · cases h; trivial
  · obtain ⟨f, -, rfl⟩ := exists_error_of_mapError h
    trivial

theorem Entry.isNamed_ofListing {v : Value} {fault : Fault} (h : Entry.ofListing v = .error fault) :
    fault.IsNamed := by
  unfold Entry.ofListing at h
  split at h
  · obtain ⟨v, -, hv⟩ := exists_error_of_mapM h
    cases v <;> cases hv <;> trivial
  · cases h; trivial

theorem Response.isNamed_entries {r : Response} {fault : Fault} (h : r.entries = .error fault) :
    fault.IsNamed := by
  unfold Response.entries at h
  rcases error_of_bind h with h | ⟨v, -, h⟩
  · exact Response.isNamed_json h
  · exact Entry.isNamed_ofListing h

end RemoteShell
