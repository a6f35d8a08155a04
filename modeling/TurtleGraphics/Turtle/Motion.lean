import TurtleGraphics.Platform
import TurtleGraphics.Turtle.Validate

/-! Where a turtle arrives: one step along its heading, floored to whole coordinates. -/

namespace TurtleGraphics

structure Direction where
  cosine : Binary64
  sine : Binary64
deriving DecidableEq

namespace Motion

def binary64 (x : Number) : Except Fault Binary64 :=
  match x.toBinary64? with
  | some b => .ok b
  | none => .error .integerTooLarge

/-- Degrees times the factor from degrees to radians, rounded once. -/
def radians (degrees : Number) : Except Fault Binary64 :=
  (binary64 degrees).map (·.mul .radiansPerDegree)

def direction [Platform] (heading : Number) : Except Fault Direction := do
  match ← radians heading with
  | .infinite _ => throw .infiniteAngle
  | angle => return ⟨Platform.cosine angle, Platform.sine angle⟩

/-- The point reached, floored; a coordinate that is not finite has left the plane. -/
def arrive (distance startX startY : Datum) (x y : Binary64) : Except Fault Point :=
  match x.floor?, y.floor? with
  | some i, some j => .ok ⟨.int i, .int j⟩
  | _, _ => .error (.domain (.leavesPlane distance startX startY))

def advance (from_ distance component : Binary64) : Binary64 := from_.add (distance.mul component)

def travel [Platform] (distance heading : Number) (start : Point) : Except Fault Point := do
  let d ← direction heading
  let length ← binary64 distance
  let x ← binary64 start.x
  let y ← binary64 start.y
  arrive (.number distance) (.number start.x) (.number start.y) (advance x length d.cosine) (advance y length d.sine)

/-- A datum as a factor of a product with a binary64 number. -/
def factor (value : Datum) : Except Fault Number :=
  match value.number? with
  | some x => .ok x
  | none => .error (.notFactor value)

def term (value : Datum) : Except Fault Number :=
  match value.number? with
  | some x => .ok x
  | none => .error (.notTerm value)

def radiansOf (degrees : Datum) : Except Fault Binary64 := do radians (← factor degrees)

/-- Travelling by raw data, each looked at when the arithmetic reaches it. -/
def travelRaw [Platform] (distance heading x y : Datum) : Except Fault Point := do
  let heading ← factor heading
  let d ← direction heading
  let pace ← factor distance
  let length ← binary64 pace
  let startX ← term x
  let fromX ← binary64 startX
  let startY ← term y
  let fromY ← binary64 startY
  arrive distance x y (advance fromX length d.cosine) (advance fromY length d.sine)

end Motion

end TurtleGraphics
