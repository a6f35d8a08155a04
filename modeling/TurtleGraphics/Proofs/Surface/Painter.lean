import Mathlib.Tactic
import TurtleGraphics.Proofs.Binary64.Sums
import TurtleGraphics.Proofs.Surface.Imaging
import TurtleGraphics.Standard

/-! Cells of thin lines. A polyline colours the same cells as its lines one by one: the end of a line is the start of
the next, and painting a cell again changes nothing. -/

namespace TurtleGraphics

namespace Image

variable (colour : Colour)

theorem paint_of_holds {image : Image} {c : Cell} (h : image.holds c = true) :
    image.paint colour c =
      { image with
        pixels := image.pixels.set! (image.index c) colour
        size_pixels := by simp [image.size_pixels] } := if_pos h

theorem paint_of_not_holds {image : Image} {c : Cell} (h : ¬image.holds c = true) :
    image.paint colour c = image := if_neg h

theorem paint_paint (image : Image) (c : Cell) : (image.paint colour c).paint colour c = image.paint colour c := by
  by_cases h : image.holds c = true
  · have hagain : (image.paint colour c).holds c = true := by
      rw [paint_of_holds colour h]
      exact h
    rw [paint_of_holds colour hagain]
    simp only [paint_of_holds colour h, mk.injEq, true_and]
    exact Array.setIfInBounds_setIfInBounds colour
  · rw [paint_of_not_holds colour h, paint_of_not_holds colour h]

theorem drawSegment_self (image : Image) (c : Cell) : image.drawSegment colour c c = image := by
  simp [drawSegment, Walk.between, Walk.paint]

theorem run_between_pos {a b : Cell} (h : a ≠ b) : 0 < (Walk.between a b).run := by
  obtain ⟨ax, ay⟩ := a
  obtain ⟨bx, bY⟩ := b
  simp only [ne_eq, Cell.mk.injEq, not_and_or] at h
  unfold Walk.between
  dsimp only
  split
  · dsimp only
    omega
  · dsimp only
    omega

/-- A line that leads anywhere paints its start first. -/
theorem drawSegment_paint {a b : Cell} (h : a ≠ b) (image : Image) :
    (image.paint colour a).drawSegment colour a b = image.drawSegment colour a b := by
  obtain ⟨steps, hsteps⟩ : ∃ steps, (Walk.between a b).run.toNat = steps + 1 :=
    ⟨(Walk.between a b).run.toNat - 1, by have := run_between_pos h; omega⟩
  simp only [drawSegment, hsteps, Walk.paint, paint_paint]

/-- Painting the start of a polyline beforehand changes nothing. -/
theorem drawPolyline_paint (c : Cell) (rest : List Cell) (image : Image) :
    (image.paint colour c).drawPolyline colour (c :: rest) = image.drawPolyline colour (c :: rest) := by
  induction rest generalizing image with
  | nil => exact paint_paint colour image c
  | cons d rest ih =>
    by_cases h : c = d
    · subst h
      simp only [drawPolyline, drawSegment_self]
      exact ih image
    · simp only [drawPolyline, drawSegment_paint colour h]

/-- A polyline is painted as its first line and then the polyline behind that. -/
theorem drawPolyline_cons (a b : Cell) (rest : List Cell) (image : Image) :
    image.drawPolyline colour (a :: b :: rest) =
      (image.drawPolyline colour [a, b]).drawPolyline colour (b :: rest) := by
  simp only [drawPolyline, drawPolyline_paint]

end Image

namespace Painter

open Standard

/-- A coordinate that is near has a cell, whatever the kind of its number. -/
theorem cellCoordinate_of_place {d : Datum} {u : Int} (h : d.place? = some (.at u))
    (hu : u.natAbs ≤ 100000 * unitsPerOne) : cellCoordinate d = .ok (u.tdiv unitsPerOne) := by
  obtain ⟨x, hx, hplace⟩ := Option.bind_eq_some_iff.mp h
  unfold cellCoordinate
  rw [hx, Option.bind_some]
  cases x with
  | float x =>
    cases x with
    | finite s m => cases hplace; rfl
    | notANumber => cases hplace
    | infinite s => cases s <;> cases hplace
  | int n =>
    cases hplace
    rw [Int.natAbs_mul, Int.natAbs_natCast] at hu
    have hsmall : n.natAbs < Nat.pow 2 53 :=
      Nat.lt_of_le_of_lt (Nat.le_of_mul_le_mul_right hu unitsPerOne_pos) (by decide)
    have hunits := Binary64.units?_ofInt hsmall
    have hfinite : (Binary64.ofInt n).isFinite = true := Binary64.isFinite_iff.mpr ⟨_, hunits⟩
    simp only [Number.toBinary64?, Binary64.ofInt?, hfinite, ↓reduceIte, Binary64.truncate?, hunits, Option.map_some,
      Option.getD_some]

theorem exists_cell {m : Mark} (h : m.IsNear) : ∃ c, cell m = .ok c := by
  obtain ⟨⟨x, hx, hux⟩, ⟨y, hy, huy⟩⟩ := h
  unfold cell
  rw [cellCoordinate_of_place hx hux, cellCoordinate_of_place hy huy]
  exact ⟨_, rfl⟩

/-- Marks that are equal as numbers have one cell. -/
theorem cell_congr {a b : Mark} (h : a.places = b.places) (hb : b.IsNear) : cell a = cell b := by
  obtain ⟨⟨x, hx, hux⟩, ⟨y, hy, huy⟩⟩ := hb
  obtain ⟨hax, hay⟩ := Prod.mk.inj h
  unfold cell
  rw [cellCoordinate_of_place hx hux, cellCoordinate_of_place hy huy, cellCoordinate_of_place (hax.trans hx) hux,
    cellCoordinate_of_place (hay.trans hy) huy]

theorem exists_cells {marks : List Mark} (h : ∀ m ∈ marks, m.IsNear) : ∃ cells, marks.mapM cell = .ok cells := by
  induction marks with
  | nil => exact ⟨[], rfl⟩
  | cons m marks ih =>
    obtain ⟨c, hc⟩ := exists_cell (h m List.mem_cons_self)
    obtain ⟨cells, hcells⟩ := ih fun n hn => h n (List.mem_cons_of_mem m hn)
    refine ⟨c :: cells, ?_⟩
    rw [List.mapM_cons, hc, hcells]
    rfl

theorem line_ok {ink : LooseText} {colour : Colour} (hink : Colour.ofName ink = .ok colour) {marks : Polyline}
    {cells : List Cell} (h : marks.mapM cell = .ok cells) (image : Image) :
    Imaging.line image ink 1 marks = .ok (image.drawPolyline colour cells) := by
  change Painter.line image ink 1 marks = _
  unfold line
  rw [hink, h]
  rfl

theorem line_error {ink : LooseText} {cause : ImagingFault} (hink : Colour.ofName ink = .error cause)
    (marks : Polyline) (image : Image) : Imaging.line image ink 1 marks = .error cause := by
  change Painter.line image ink 1 marks = _
  unfold line
  rw [hink]
  rfl

/-- Painting the lines of a polyline one by one paints the polyline. -/
theorem foldlM_segments {ink : LooseText} {colour : Colour} (hink : Colour.ofName ink = .ok colour) {a b : Mark}
    {rest : Polyline} {cells : List Cell} (h : (a :: b :: rest).mapM cell = .ok cells) (image : Image) :
    (Polyline.segments (a :: b :: rest)).foldlM (Imaging.withLine ink) image =
      .ok (image.drawPolyline colour cells) := by
  induction rest generalizing a b cells image with
  | nil =>
    change (Imaging.withLine ink image (a, b) >>= pure) = _
    rw [bind_pure]
    exact line_ok hink h image
  | cons c rest ih =>
    rw [List.mapM_cons] at h
    obtain ⟨ca, ha, h⟩ := ok_of_bind_ok h
    obtain ⟨cs, hcs, h⟩ := ok_of_bind_ok h
    cases h
    have htail := hcs
    rw [List.mapM_cons] at hcs
    obtain ⟨cb, hb, hcs⟩ := ok_of_bind_ok hcs
    obtain ⟨more, -, hcs⟩ := ok_of_bind_ok hcs
    cases hcs
    have hfirst : [a, b].mapM cell = .ok [ca, cb] := by
      rw [List.mapM_cons, List.mapM_cons, ha, hb]
      rfl
    have hline : Imaging.withLine ink image (a, b) = .ok (image.drawPolyline colour [ca, cb]) :=
      line_ok hink hfirst image
    rw [Polyline.segments_cons_cons, List.foldlM_cons, hline, Image.drawPolyline_cons colour ca cb more image]
    exact ih htail _

/-- A colour is an ink that near lines can be painted with. -/
theorem accepts {ink : LooseText} {colour : Colour} (h : Colour.ofName ink = .ok colour) : Imaging.Accepts ink := by
  intro image path _ hnear
  obtain ⟨cells, hcells⟩ := exists_cells hnear
  exact ⟨_, line_ok h hcells image⟩

theorem paintsSegments : Imaging.PaintsSegments where
  line_eq := by
    intro image ink path hlong hnear
    match path with
    | [] | [_] => simp at hlong
    | a :: b :: rest =>
      cases hink : Colour.ofName ink with
      | error cause =>
        rw [Polyline.segments_cons_cons, List.foldlM_cons, Imaging.withLine, line_error hink, line_error hink]
        rfl
      | ok colour =>
        obtain ⟨cells, hcells⟩ := exists_cells hnear
        rw [foldlM_segments hink hcells image]
        exact line_ok hink hcells image
  line_same := by
    intro image ink a b c d hc hd hac hbd
    have hcells : [a, b].mapM cell = [c, d].mapM cell := by
      simp only [List.mapM_cons, List.mapM_nil, cell_congr (hc.isFinite.places_of_same hac) hc,
        cell_congr (hd.isFinite.places_of_same hbd) hd]
    change Painter.line image ink 1 [a, b] = Painter.line image ink 1 [c, d]
    unfold line
    rw [hcells]

theorem natAbs_lt_of_int32 {n m : Int} (hn : 0 ≤ n) (h : int32 n = .ok m) : n.natAbs < 2147483648 := by
  unfold int32 at h
  split at h
  · omega
  · cases h

theorem boundsSides : Imaging.BoundsSides := by
  intro width height background image h
  change Painter.blank width height background = .ok image at h
  unfold blank at h
  split at h
  · cases h
  · obtain ⟨colour, -, h⟩ := ok_of_bind_ok h
    obtain ⟨w, hw, h⟩ := ok_of_bind_ok h
    obtain ⟨t, ht, -⟩ := ok_of_bind_ok h
    exact ⟨natAbs_lt_of_int32 (by omega) hw, natAbs_lt_of_int32 (by omega) ht⟩

end Painter

end TurtleGraphics
