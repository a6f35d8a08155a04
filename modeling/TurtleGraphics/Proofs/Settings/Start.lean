import Mathlib.Tactic
import TurtleGraphics.Proofs.Settings.Reading

/-! The turtle that settings start with. Once they are read, only a coordinate that is not finite can stand in its
way. -/

namespace TurtleGraphics

namespace StartSettings

theorem point_floats (x y : Binary64) :
    Validate.point (.tuple [.float x, .float y]) =
      if x.isFinite && y.isFinite then .ok ⟨.float x, .float y⟩
      else .error (.domain (.coordinatesNotFinite (.float x) (.float y))) := by
  have hfinite : ∀ z : Binary64, Validate.finite (.float z) = .ok z.isFinite := fun _ => rfl
  change Validate.finitePoint ⟨.float x, .float y⟩ = _
  unfold Validate.finitePoint
  dsimp only
  rw [hfinite, hfinite]
  cases x.isFinite with
  | false => rfl
  | true => cases y.isFinite <;> rfl

def placed (s : StartSettings) : Turtle := ⟨⟨.float s.x, .float s.y⟩, .float s.heading, s.pen⟩

theorem turtle_eq {s : StartSettings} (h : Validate.inRange (.float s.heading) = true) :
    s.turtle =
      if s.x.isFinite && s.y.isFinite then .ok s.placed
      else .error (.domain (.coordinatesNotFinite (.float s.x) (.float s.y))) := by
  have hheading : Validate.heading (.float s.heading) = .ok (.float s.heading) := if_pos h
  have hpen : Validate.pen (.text s.pen.text) = .ok s.pen := by cases s.pen <;> rfl
  unfold turtle Validate.turtle
  rw [point_floats, hheading, hpen]
  split <;> rfl

theorem kind_of_turtle_error {s : StartSettings} {fault : Fault} (hs : Validate.inRange (.float s.heading) = true)
    (h : s.turtle = .error fault) : fault.kind = .domain := by
  rw [turtle_eq hs] at h
  split at h
  · cases h
  · cases h; rfl

end StartSettings

end TurtleGraphics
