import Mathlib.Tactic
import TurtleGraphics.Proofs.Surface.Painter

/-! Painted drawings. An image shows the segments that a recorder keeps of the same calls, joined to paths or not. -/

namespace TurtleGraphics

theorem Raster.make_ok [library : Imaging] {width height lineWidth : Int} {background ink : LooseText} {q : Raster}
    (h : make width height background ink lineWidth = .ok q) :
    ∃ blank, Imaging.blank width height background = .ok blank ∧
      q = ⟨library, blank, ink, lineWidth, .origin, []⟩ := by
  unfold make at h
  split at h
  · next blank hblank =>
    cases h
    exact ⟨blank, hblank, rfl⟩
  · cases h

/-- A raster and a recorder that got the same calls: they stand and draw at the same marks, and the image shows the
segments that were recorded, painted on a blank image, and nothing else. -/
structure Raster.Shows [library : Imaging] (q : Raster) (ink : LooseText) (blank : Image) (r : Recorder) : Prop where
  library_eq : q.library = library
  ink_eq : q.ink = ink
  lineWidth : q.lineWidth = 1
  cursor : q.cursor = r.cursor
  pending : q.pending = r.pending
  image : r.segments.foldlM (Imaging.withLine ink) blank = .ok q.image

namespace Raster

variable {q : Raster} {blank : Image} {r : Recorder}

theorem stroke_of_short (h : ∀ first second rest, q.pending ≠ first :: second :: rest) :
    q.stroke = ({ q with pending := [] }, none) := by
  unfold stroke
  split
  · next first second rest hpending => exact absurd hpending (h first second rest)
  · rfl

theorem stroke_of_line {first second : Mark} {rest : Polyline} {image : Image}
    (hpending : q.pending = first :: second :: rest) (hline : q.line q.image q.pending = .ok image) :
    q.stroke = ({ q with image := image, pending := [] }, none) := by
  rw [hpending] at hline
  unfold stroke
  rw [hpending]
  dsimp only
  rw [hline]

variable [Imaging] {ink : LooseText}

/-- A stroke paints the segments that it adds to the paths, also where it starts at an equal mark of a path. -/
theorem Shows.stroke (paints : Imaging.PaintsSegments) (hink : Imaging.Accepts ink) (h : q.Shows ink blank r)
    (hr : r.Uses Mark.IsNear) : q.stroke.2 = none ∧ q.stroke.1.Shows ink blank r.stroke := by
  have hcursor : q.cursor = r.stroke.cursor := h.cursor.trans (Recorder.cursor_stroke r).symm
  have hnone : [] = r.stroke.pending := (Recorder.pending_stroke r).symm
  have himage := h.image
  by_cases hshort : ∀ first second rest, r.pending ≠ first :: second :: rest
  · have hsegments : r.stroke.segments = r.segments := by
      rw [Recorder.stroke_of_short hshort]
      rfl
    rw [stroke_of_short (h.pending ▸ hshort)]
    exact ⟨rfl, h.library_eq, h.ink_eq, h.lineWidth, hcursor, hnone, hsegments ▸ himage⟩
  · push Not at hshort
    obtain ⟨first, second, rest, hpending⟩ := hshort
    have hmarks := hr.pending
    rw [hpending] at hmarks
    have hfirst := (hmarks first List.mem_cons_self).isFinite
    have hstands := h.pending.trans hpending
    obtain ⟨painted, hpainted⟩ := hink q.image (by simp) hmarks
    have hline : q.line q.image q.pending = .ok painted := by
      unfold line
      rw [h.library_eq, h.ink_eq, h.lineWidth, hstands]
      exact hpainted
    -- A joined stroke starts at the mark that the path ended with, which is painted in the same place.
    obtain ⟨start, hstart, hsegments⟩ :=
      Recorder.segments_join hfirst.same_self r.continuing (second :: rest) r.paths
    have hstroke : r.stroke.segments = r.segments ++ Polyline.segments (start :: second :: rest) := by
      unfold Recorder.stroke Recorder.segments
      rw [hpending]
      exact hsegments
    rw [stroke_of_line hstands hline]
    refine ⟨rfl, h.library_eq, h.ink_eq, h.lineWidth, hcursor, hnone, ?_⟩
    rw [hstroke, List.foldlM_append, himage]
    exact paints.foldlM_segments hmarks hstart hpainted

/-- One call to both surfaces. -/
theorem Shows.call (paints : Imaging.PaintsSegments) (hink : Imaging.Accepts ink) (h : q.Shows ink blank r)
    (hr : r.Uses Mark.IsNear) (c : SurfaceCall) :
    ∃ q', (Surface.fanOut [.raster q, .recorder r]).call c = (.fanOut [.raster q', .recorder (r.take c)], none) ∧
      q'.Shows ink blank (r.take c) := by
  cases c with
  | moveTo m => exact ⟨q.moveTo m, rfl, h.library_eq, h.ink_eq, h.lineWidth, rfl, h.pending, h.image⟩
  | lineTo m =>
    refine ⟨q.lineTo m, rfl, h.library_eq, h.ink_eq, h.lineWidth, rfl, ?_, h.image⟩
    change Recorder.extendPending q.pending q.cursor m = Recorder.extendPending r.pending r.cursor m
    rw [h.pending, h.cursor]
  | stroke =>
    obtain ⟨hnone, hshows⟩ := h.stroke paints hink hr
    refine ⟨q.stroke.1, ?_, hshows⟩
    simp only [Surface.call, Surface.callAll, hnone, Recorder.take]

theorem Shows.calls (paints : Imaging.PaintsSegments) (hink : Imaging.Accepts ink) (h : q.Shows ink blank r)
    (hr : r.Uses Mark.IsNear) {cs : List SurfaceCall}
    (hcs : ∀ c ∈ cs, ∀ m ∈ c.mark?, m.IsNear) :
    ∃ q', (Surface.fanOut [.raster q, .recorder r]).calls cs =
        (.fanOut [.raster q', .recorder (r.takeAll cs)], none) ∧ q'.Shows ink blank (r.takeAll cs) := by
  induction cs generalizing q r with
  | nil => exact ⟨q, rfl, h⟩
  | cons c cs ih =>
    obtain ⟨q₁, hcall, h₁⟩ := h.call paints hink hr c
    obtain ⟨q₂, hcalls, h₂⟩ :=
      ih h₁ (hr.take (hcs c List.mem_cons_self)) fun d hd => hcs d (List.mem_cons_of_mem c hd)
    refine ⟨q₂, ?_, h₂⟩
    rw [Surface.calls, hcall]
    exact hcalls

end Raster

namespace SurfaceCall

/-- A fresh raster and a fresh recorder that are sent the same calls stand and draw at the same marks. The image is
blank but for the segments of the recorder, painted one by one. -/
theorem image_shows_segments [Imaging] (paints : Imaging.PaintsSegments) {width height : Int}
    {background ink : LooseText} {fresh : Raster} (hfresh : Raster.make width height background ink 1 = .ok fresh)
    (hink : Imaging.Accepts ink) {cs : List SurfaceCall} (hcs : ∀ c ∈ cs, ∀ m ∈ c.mark?, m.IsNear) :
    ∃ blank q r, Imaging.blank width height background = .ok blank ∧
      (Surface.fanOut [.raster fresh, .recorder .empty]).calls cs = (.fanOut [.raster q, .recorder r], none) ∧
      q.cursor = r.cursor ∧ q.pending = r.pending ∧
      r.segments.foldlM (Imaging.withLine ink) blank = .ok q.image := by
  obtain ⟨blank, hblank, rfl⟩ := Raster.make_ok hfresh
  have hstart : Raster.Shows ⟨_, blank, ink, 1, .origin, []⟩ ink blank .empty := ⟨rfl, rfl, rfl, rfl, rfl, rfl⟩
  have hzero : Mark.origin.x.IsNear := ⟨0, by decide +kernel, by decide +kernel⟩
  obtain ⟨q, hcalls, h⟩ := hstart.calls paints hink ⟨⟨hzero, hzero⟩, nofun⟩ hcs
  exact ⟨blank, q, _, hblank, hcalls, h.cursor, h.pending, h.image⟩

/-- Two strokes that meet at marks of two kinds. -/
def kindsMeet : List SurfaceCall :=
  [.lineTo (.ofPoint ⟨.int 3, .int 0⟩), .lineTo (.ofPoint ⟨.int 3, .int 2⟩), .stroke,
    .moveTo (.ofPoint ⟨.float (.ofInt 3), .float (.ofInt 2)⟩), .lineTo (.ofPoint ⟨.int 0, .int 2⟩), .stroke]

theorem kindsMeet_isNear : ∀ c ∈ kindsMeet, ∀ m ∈ c.mark?, m.IsNear := by
  have hfloats : (Mark.ofPoint ⟨.float (.ofInt 3), .float (.ofInt 2)⟩).IsNear :=
    ⟨⟨3 * unitsPerOne, by decide +kernel, by decide +kernel⟩, ⟨2 * unitsPerOne, by decide +kernel, by decide +kernel⟩⟩
  simp only [kindsMeet, List.forall_mem_cons, List.not_mem_nil, false_implies, implies_true, and_true, true_and, mark?,
    Option.mem_some_iff, forall_eq', Option.not_mem_none]
  exact ⟨Mark.isNear_int (by decide) (by decide), Mark.isNear_int (by decide) (by decide), hfloats,
    Mark.isNear_int (by decide) (by decide)⟩

open Standard

theorem image_shows_kindsMeet :
    Imaging.PaintsSegments ∧ Imaging.Accepts (.whole "black") ∧ (∀ c ∈ kindsMeet, ∀ m ∈ c.mark?, m.IsNear) ∧
    ∃ fresh blank q r, Raster.make 8 6 (.whole "white") (.whole "black") 1 = .ok fresh ∧
      Imaging.blank 8 6 (.whole "white") = .ok blank ∧
      (Surface.fanOut [.raster fresh, .recorder .empty]).calls kindsMeet = (.fanOut [.raster q, .recorder r], none) ∧
      q.cursor = r.cursor ∧ q.pending = r.pending ∧
      r.segments.foldlM (Imaging.withLine (.whole "black")) blank = .ok q.image := by
  have hfresh : Raster.make 8 6 (.whole "white") (.whole "black") 1 =
      .ok ⟨imaging, .blank 8 6 .white, .whole "black", 1, .origin, []⟩ := by rfl
  have hblack : Colour.ofName (.whole "black") = .ok .black := by rfl
  have hink := Painter.accepts hblack
  obtain ⟨blank, q, r, h⟩ := image_shows_segments Painter.paintsSegments hfresh hink kindsMeet_isNear
  exact ⟨Painter.paintsSegments, hink, kindsMeet_isNear, _, blank, q, r, hfresh, h⟩

end SurfaceCall

end TurtleGraphics
