import TurtleGraphics.Surface.Imaging

/-! A plain painter: it knows a few colours, and its lines are one pixel wide, whatever width is asked for. -/

namespace TurtleGraphics.Painter

/-- The message of an integer outside a range of 32 bits, and perhaps outside one of 64. -/
def int32Message (n : Int) : String :=
  if n < -9223372036854775808 ∨ 9223372036854775807 < n then "Python int too large to convert to C long"
  else if n < 0 then "signed integer is less than minimum"
  else "signed integer is greater than maximum"

def int32 (n : Int) : Except ImagingFault Int :=
  if -2147483648 ≤ n ∧ n < 2147483648 then .ok n else .error ⟨.overflow, int32Message n, rfl⟩

/-- The number of pixels, and of pixels on a side, that memory is given for. -/
def capacity : Nat := 536870910

def fill (width height : Int) (background : Colour) : Except ImagingFault Image := do
  let width := (← int32 width).toNat
  let height := (← int32 height).toNat
  if capacity < max (width * height) (max width height) then throw ⟨.memory, "", rfl⟩
  return .blank width height background

/-- Negative sides are refused before the background is looked at, and huge ones after it. -/
def blank (width height : Int) (background : LooseText) : Except ImagingFault Image :=
  if width < 0 ∨ height < 0 then .error (.value "Width and height must be >= 0")
  else do fill width height (← Colour.ofName background)

/-- A coordinate without its fraction. One that is not finite is on no image. -/
def cellCoordinate (d : Datum) : Except ImagingFault Int :=
  match d.number?.bind Number.toBinary64? with
  | some x => .ok (x.truncate?.getD (-1))
  | none => .error (.value "incorrect coordinate type")

def cell (m : Mark) : Except ImagingFault Cell := do
  return ⟨← cellCoordinate m.x, ← cellCoordinate m.y⟩

/-- The ink is looked at first, then the width, then the marks. -/
def line (image : Image) (ink : LooseText) (lineWidth : Int) (marks : Polyline) : Except ImagingFault Image := do
  let colour ← Colour.ofName ink
  let _ ← int32 lineWidth
  return image.drawPolyline colour (← marks.mapM cell)

end TurtleGraphics.Painter
