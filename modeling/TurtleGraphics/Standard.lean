import TurtleGraphics.Platform
import TurtleGraphics.Schema.Coerce
import TurtleGraphics.Surface.Painter

/-! The machine and the libraries that programs run with: correctly rounded cosines and sines, a strict reader and a
painter of thin lines. -/

namespace TurtleGraphics.Standard

scoped instance platform : Platform where
  cosine := .cos
  sine := .sin
  isFinite_cosine := Binary64.isFinite_cos
  isFinite_sine := Binary64.isFinite_sin
  jsonDepth := 990
  jsonDepth_ge := by decide

scoped instance validation : Validation where
  strictJson? := Coerce.strictJson?
  text := Coerce.text
  finiteNumber := Coerce.finiteNumber
  isFinite_finiteNumber := Coerce.isFinite_finiteNumber
  looseText := Coerce.looseText
  anyNumber := Coerce.anyNumber
  integer := Coerce.integer

scoped instance imaging : Imaging where
  blank := Painter.blank
  line := Painter.line

end TurtleGraphics.Standard
