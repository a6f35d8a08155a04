import TurtleGraphics.Turtle.Motion

/-! Composition of stages from left to right. -/

namespace TurtleGraphics

/-- Hands each stage the result of the one before; the first fault ends the whole. -/
def pipe {ε α : Type} (stages : List (α → Except ε α)) (initial : α) : Except ε α :=
  stages.foldlM (fun value stage => stage value) initial

inductive DatumStage where
  | isNumber
  | point
  | heading
  | pen
  | radians
deriving DecidableEq

namespace DatumStage

def apply : DatumStage → Datum → Except Fault Datum
  | .isNumber, d => .ok (.bool d.isNumber)
  | .point, d => (Validate.point d).map Datum.ofPoint
  | .heading, d => (Validate.heading d).map Datum.number
  | .pen, d => (Validate.pen d).map Datum.pen
  | .radians, d => (Motion.radiansOf d).map Datum.float

def applyAll (stages : List DatumStage) : Datum → Except Fault Datum := pipe (stages.map apply)

end DatumStage

end TurtleGraphics
