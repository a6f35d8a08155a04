import TurtleGraphics.Fault

/-! A turtle: a position, a heading and a pen. The surface that it draws on is passed beside it. -/

namespace TurtleGraphics

structure Turtle where
  position : Point
  /-- Degrees from the x axis, counted on without wrapping at a full turn. -/
  heading : Number
  pen : Pen
deriving DecidableEq

namespace Turtle

def isDrawing (t : Turtle) : Bool := t.pen = .down

def describe (t : Turtle) : String :=
  s!"position=({t.position.x.string}, {t.position.y.string}) heading={t.heading.string} pen={t.pen.text}"

end Turtle

end TurtleGraphics
