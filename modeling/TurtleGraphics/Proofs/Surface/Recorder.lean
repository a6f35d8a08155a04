import Mathlib.Tactic
import TurtleGraphics.Proofs.Surface.Calls
import TurtleGraphics.Proofs.Turtle.Motion
import TurtleGraphics.Turtle.Transition

/-! Strokes and segments. A stroke adds its own segments behind those of a recorder, joined to a path or not. -/

namespace TurtleGraphics

namespace Mark

theorem same_self {p : Point} (h : p.IsFinite) : (ofPoint p).same (ofPoint p) = true := by
  have hx : (ofPoint p).x.same (ofPoint p).x = true := h.x.equals_self
  have hy : (ofPoint p).y.same (ofPoint p).y = true := h.y.equals_self
  rw [same, hx, hy]
  rfl

end Mark

namespace Polyline

theorem segments_cons_cons (a b : Mark) (rest : Polyline) :
    segments (a :: b :: rest) = (a, b) :: segments (b :: rest) := rfl

theorem segments_append {path : Polyline} {last : Mark} (h : path.getLast? = some last) (rest : Polyline) :
    segments (path ++ rest) = segments path ++ segments (last :: rest) := by
  induction path with
  | nil => cases h
  | cons a path ih =>
    cases path with
    | nil => cases h; rfl
    | cons b path =>
      rw [List.getLast?_cons_cons] at h
      have := ih h
      rw [List.cons_append] at this
      rw [List.cons_append, List.cons_append, segments_cons_cons, this, segments_cons_cons, List.cons_append]

/-- A line of no two marks is empty, if it has not a single one. -/
theorem eq_nil_of_short {path : Polyline} (h : path.length ≠ 1)
    (hshort : ∀ first second rest, path ≠ first :: second :: rest) : path = [] := by
  match path with
  | [] => rfl
  | [m] => exact absurd rfl h
  | first :: second :: rest => exact absurd rfl (hshort first second rest)

end Polyline

namespace Recorder

/-- A stroke becomes a path of its own, or it goes on from the last path and extends that. -/
theorem join_cases (continuing : Bool) (first : Mark) (rest : Polyline) (paths : List Polyline) :
    (join continuing first rest paths = paths ++ [first :: rest] ∧
        ∀ path ∈ paths.getLast?, goesOn continuing path first = false) ∨
      ∃ earlier path, paths = earlier ++ [path] ∧ goesOn continuing path first = true ∧
        join continuing first rest paths = earlier ++ [path ++ rest] := by
  induction paths with
  | nil => exact .inl ⟨rfl, nofun⟩
  | cons path paths ih =>
    cases paths with
    | nil =>
      cases hgoes : goesOn continuing path first with
      | true => exact .inr ⟨[], path, rfl, hgoes, by simp [join, hgoes]⟩
      | false => exact .inl ⟨by simp [join, hgoes], by simpa using hgoes⟩
    | cons next paths =>
      rw [List.getLast?_cons_cons, join]
      rcases ih with ⟨hjoin, hlast⟩ | ⟨earlier, last, hpaths, hgoes, hjoin⟩
      · exact .inl ⟨congrArg (path :: ·) hjoin, hlast⟩
      · exact .inr ⟨path :: earlier, last, congrArg (path :: ·) hpaths, hgoes, congrArg (path :: ·) hjoin⟩

/-- The segments that a stroke adds start at its first mark, or at a mark equal to it where a path ended. -/
theorem segments_join {first : Mark} (hself : first.same first = true) (continuing : Bool) (rest : Polyline)
    (paths : List Polyline) :
    ∃ start, start.same first = true ∧
      (join continuing first rest paths).flatMap Polyline.segments =
        paths.flatMap Polyline.segments ++ Polyline.segments (start :: rest) := by
  rcases join_cases continuing first rest paths with ⟨hjoin, -⟩ | ⟨earlier, path, rfl, hgoes, hjoin⟩
  · exact ⟨first, hself, by simp [hjoin]⟩
  · simp only [goesOn, hself, Bool.not_true, Bool.and_false, Bool.or_false, Polyline.endsAt] at hgoes
    split at hgoes
    · next last hlast => exact ⟨last, hgoes, by simp [hjoin, Polyline.segments_append hlast]⟩
    · cases hgoes

/-- What a move with the pen down leaves of a recorder that has no stroke pending. -/
theorem drawn_down {r : Recorder} (h : r.pending = []) (start stop : Point) :
    (Surface.recorder r).drawn (Transition.moveCalls .down start stop) =
      .recorder { r with
        paths := join false (.ofPoint start) [.ofPoint stop] r.paths
        cursor := .ofPoint stop
        moves := r.moves + 1
        strokes := r.strokes + 1
        resting := true
        continuing := false } := by
  obtain ⟨paths, cursor, moves, strokes, pending, resting, continuing⟩ := r
  cases h
  rfl

theorem drawn_up (r : Recorder) (start stop : Point) :
    (Surface.recorder r).drawn (Transition.moveCalls .up start stop) = .recorder (r.moveTo (.ofPoint stop)) := rfl

end Recorder

end TurtleGraphics
