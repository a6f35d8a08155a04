import TurtleGraphics.Surface.Imaging
import TurtleGraphics.Surface.Recorder

/-! A surface that paints strokes into an image. -/

namespace TurtleGraphics

/-- The ink and the width of lines are looked at when a stroke needs them. -/
structure Raster where
  /-- What the strokes are painted with. -/
  library : Imaging
  image : Image
  ink : LooseText
  lineWidth : Int
  cursor : Mark
  pending : Polyline

namespace Raster

def make [library : Imaging] (width height : Int) (background ink : LooseText) (lineWidth : Int) :
    Except Fault Raster :=
  match Imaging.blank width height background with
  | .ok image => .ok ⟨library, image, ink, lineWidth, .origin, []⟩
  | .error cause => .error (.imaging cause)

def moveTo (r : Raster) (m : Mark) : Raster := { r with cursor := m }

def lineTo (r : Raster) (m : Mark) : Raster :=
  { r with cursor := m, pending := Recorder.extendPending r.pending r.cursor m }

/-- A line through marks on an image, with the raster's ink. -/
def line (r : Raster) (image : Image) (marks : Polyline) : Except ImagingFault Image :=
  @Imaging.line r.library image r.ink r.lineWidth marks

/-- Paints the pending marks. When that fails, nothing changes. -/
def stroke (r : Raster) : Raster × Option Fault :=
  match r.pending with
  | _ :: _ :: _ =>
    match r.line r.image r.pending with
    | .ok image => ({ r with image := image, pending := [] }, none)
    | .error cause => (r, some (.imaging cause))
  | _ => ({ r with pending := [] }, none)

end Raster

end TurtleGraphics
