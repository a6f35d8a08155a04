import Mathlib.Tactic
import TurtleGraphics.Proofs.Surface.Lines

/-! What painting is asked for. Thin lines between near marks can be painted with some inks, and a polyline shows what
its lines show one by one. -/

namespace TurtleGraphics

/-- A number, or a truth value that counts as one, of at most `10 ^ 5` either way. -/
def Datum.IsNear (d : Datum) : Prop := ∃ u : Int, d.place? = some (.at u) ∧ u.natAbs ≤ 100000 * unitsPerOne

structure Mark.IsNear (m : Mark) : Prop where
  x : m.x.IsNear
  y : m.y.IsNear

theorem Mark.IsNear.isFinite {m : Mark} (h : m.IsNear) : m.IsFinite := by
  obtain ⟨⟨x, hx, -⟩, ⟨y, hy, -⟩⟩ := h
  exact ⟨x, y, by rw [places, hx, hy]⟩

theorem Mark.isNear_int {x y : Int} (hx : x.natAbs ≤ 100000) (hy : y.natAbs ≤ 100000) :
    (Mark.ofPoint ⟨.int x, .int y⟩).IsNear := by
  refine ⟨⟨_, rfl, ?_⟩, ⟨_, rfl, ?_⟩⟩
  · rw [Int.natAbs_mul, Int.natAbs_natCast]
    exact Nat.mul_le_mul_right _ hx
  · rw [Int.natAbs_mul, Int.natAbs_natCast]
    exact Nat.mul_le_mul_right _ hy

namespace Imaging

variable [Imaging]

/-- A line of one pixel's width between two marks, painted on an image. -/
def withLine (ink : LooseText) (image : Image) (marks : Mark × Mark) : Except ImagingFault Image :=
  line image ink 1 [marks.1, marks.2]

/-- An ink that thin lines between near marks can be painted with. -/
def Accepts (ink : LooseText) : Prop :=
  ∀ (image : Image) {path : Polyline}, 2 ≤ path.length → (∀ m ∈ path, m.IsNear) →
    ∃ painted, line image ink 1 path = .ok painted

/-- A thin polyline is painted as its lines are, one by one. Marks that are equal as numbers are one place. -/
structure PaintsSegments : Prop where
  line_eq (image : Image) (ink : LooseText) {path : Polyline} (hlong : 2 ≤ path.length)
    (hnear : ∀ m ∈ path, m.IsNear) : line image ink 1 path = path.segments.foldlM (withLine ink) image
  line_same (image : Image) (ink : LooseText) {a b c d : Mark} (hc : c.IsNear) (hd : d.IsNear)
    (hac : a.same c = true) (hbd : b.same d = true) : withLine ink image (a, b) = withLine ink image (c, d)

/-- The lines of a polyline that was painted paint it, also when the first of them starts at a mark that is equal. -/
theorem PaintsSegments.foldlM_segments (paints : PaintsSegments) {image painted : Image} {ink : LooseText}
    {start first second : Mark} {rest : Polyline} (hnear : ∀ m ∈ first :: second :: rest, m.IsNear)
    (hstart : start.same first = true) (h : line image ink 1 (first :: second :: rest) = .ok painted) :
    (Polyline.segments (start :: second :: rest)).foldlM (withLine ink) image = .ok painted := by
  have hfirst := hnear first List.mem_cons_self
  have hsecond := hnear second (List.mem_cons_of_mem first List.mem_cons_self)
  have hsame := paints.line_same image ink hfirst hsecond hstart hsecond.isFinite.same_self
  rw [paints.line_eq image ink (by simp) hnear, Polyline.segments_cons_cons, List.foldlM_cons] at h
  rw [Polyline.segments_cons_cons, List.foldlM_cons, hsame]
  exact h

/-- Images that can be made have sides of at most 31 bits. -/
def BoundsSides : Prop :=
  ∀ {width height : Int} {background : LooseText} {image : Image}, blank width height background = .ok image →
    width.natAbs < 2147483648 ∧ height.natAbs < 2147483648

end Imaging

end TurtleGraphics
