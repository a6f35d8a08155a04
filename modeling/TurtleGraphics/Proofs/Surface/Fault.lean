import Mathlib.Tactic
import TurtleGraphics.Surface.Basic

/-! The faults of drawing calls: they come from the library that paints, and are none of the program's own. -/

namespace TurtleGraphics

namespace Fault

/-- What callers can run into: every fault but that of a command that leaves no turtle. -/
def IsOrdinary (f : Fault) : Prop := f.causeKind ≠ .invariant

/-- A refusal by the library that paints. -/
def IsForeign (f : Fault) : Prop := ∃ cause, f = .imaging cause

theorem IsOrdinary.kind_ne {f : Fault} (h : f.IsOrdinary) : f.kind ≠ .invariant := by
  unfold kind
  split
  · exact h
  · exact nofun

/-- The library has no part in what is the program's own. -/
theorem IsForeign.isOrdinary {f : Fault} (h : f.IsForeign) : f.IsOrdinary := by
  obtain ⟨cause, rfl⟩ := h
  intro hkind
  have hforeign := cause.foreign
  rw [show cause.kind = .invariant from hkind] at hforeign
  cases hforeign

end Fault

theorem Raster.isForeign_of_stroke {r : Raster} {fault : Fault} (h : r.stroke.2 = some fault) : fault.IsForeign := by
  unfold stroke at h
  split at h
  · split at h
    · cases h
    · cases h; exact ⟨_, rfl⟩
  · cases h

namespace Surface

mutual

theorem isForeign_of_call (c : SurfaceCall) :
    ∀ {s : Surface} {fault : Fault}, (s.call c).2 = some fault → fault.IsForeign
  | .recorder r, _, h => by cases c <;> cases h
  | .raster r, _, h => by
    cases c with
    | moveTo m => cases h
    | lineTo m => cases h
    | stroke => exact Raster.isForeign_of_stroke h
  | .fanOut members, _, h => @isForeign_of_callAll c members _ h
termination_by structural s => s

theorem isForeign_of_callAll (c : SurfaceCall) :
    ∀ {members : List Surface} {fault : Fault}, (callAll c members).2 = some fault → fault.IsForeign
  | [], _, h => by cases h
  | s :: rest, _, h => by
    unfold callAll at h
    split at h
    · next s₁ fault hcall =>
      cases h
      exact isForeign_of_call c (by rw [hcall])
    · exact isForeign_of_callAll c h
termination_by structural members => members

end

theorem isForeign_of_calls {s s' : Surface} {cs : List SurfaceCall} {fault : Fault}
    (h : s.calls cs = (s', some fault)) : fault.IsForeign := by
  induction cs generalizing s with
  | nil => cases h
  | cons c cs ih =>
    unfold calls at h
    split at h
    · next s₁ f hcall =>
      cases h
      exact isForeign_of_call c (by rw [hcall])
    · exact ih h

end Surface

end TurtleGraphics
