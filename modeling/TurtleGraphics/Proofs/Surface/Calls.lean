import Mathlib.Tactic
import TurtleGraphics.Surface.Basic

/-! Drawing calls. What calls leave of a surface is what some first ones of them leave, and surfaces that are made
of recorders alone take every call. -/

namespace TurtleGraphics.Surface

/-- A surface after drawing calls, whatever faults they meet. -/
def drawn (s : Surface) (cs : List SurfaceCall) : Surface := cs.foldl (fun s c => (s.call c).1) s

@[simp] theorem drawn_nil (s : Surface) : s.drawn [] = s := rfl

@[simp] theorem drawn_cons (s : Surface) (c : SurfaceCall) (cs : List SurfaceCall) :
    s.drawn (c :: cs) = (s.call c).1.drawn cs := rfl

theorem drawn_append (s : Surface) (cs ds : List SurfaceCall) : s.drawn (cs ++ ds) = (s.drawn cs).drawn ds := by
  unfold drawn
  rw [List.foldl_append]

/-- Calls that end in no fault have all been made. -/
theorem drawn_of_calls {s s' : Surface} {cs : List SurfaceCall} (h : s.calls cs = (s', none)) : s' = s.drawn cs := by
  induction cs generalizing s with
  | nil => cases h; rfl
  | cons c cs ih =>
    unfold calls at h
    split at h
    · cases h
    · next s₁ hcall =>
      rw [drawn_cons, hcall]
      exact ih h

mutual

def onlyRecorders : Surface → Bool
  | .recorder _ => true
  | .raster _ => false
  | .fanOut members => allRecorders members
termination_by structural s => s

def allRecorders : List Surface → Bool
  | [] => true
  | s :: rest => s.onlyRecorders && allRecorders rest
termination_by structural members => members

end

mutual

theorem call_onlyRecorders (c : SurfaceCall) :
    ∀ {s : Surface}, s.onlyRecorders = true → (s.call c).2 = none ∧ (s.call c).1.onlyRecorders = true
  | .recorder r, _ => by cases c <;> exact ⟨rfl, rfl⟩
  | .raster r, h => by cases h
  | .fanOut members, h => @callAll_allRecorders c members h
termination_by structural s => s

theorem callAll_allRecorders (c : SurfaceCall) :
    ∀ {members : List Surface}, allRecorders members = true →
      (callAll c members).2 = none ∧ allRecorders (callAll c members).1 = true
  | [], _ => ⟨rfl, rfl⟩
  | s :: rest, h => by
    simp only [allRecorders, Bool.and_eq_true] at h
    obtain ⟨hfault, hs⟩ := call_onlyRecorders c h.1
    obtain ⟨hfaults, hrest⟩ := callAll_allRecorders c h.2
    unfold callAll
    split
    · next s₁ fault hcall => simp [hcall] at hfault
    · next s₁ hcall =>
      rw [hcall] at hs
      exact ⟨hfaults, by simp only [allRecorders, hs, hrest, Bool.and_self]⟩
termination_by structural members => members

end

theorem onlyRecorders_drawn {s : Surface} (h : s.onlyRecorders = true) (cs : List SurfaceCall) :
    (s.drawn cs).onlyRecorders = true := by
  induction cs generalizing s with
  | nil => exact h
  | cons c cs ih => exact ih (call_onlyRecorders c h).2

/-- Recorders refuse no call. -/
theorem calls_of_onlyRecorders {s : Surface} (h : s.onlyRecorders = true) (cs : List SurfaceCall) :
    s.calls cs = (s.drawn cs, none) := by
  induction cs generalizing s with
  | nil => rfl
  | cons c cs ih =>
    obtain ⟨hfault, hs⟩ := call_onlyRecorders c h
    unfold calls
    split
    · next s₁ fault hcall => simp [hcall] at hfault
    · next s₁ hcall =>
      rw [hcall] at hs
      rw [drawn_cons, hcall]
      exact ih hs

end TurtleGraphics.Surface
