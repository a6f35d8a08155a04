import TurtleGraphics.Datum.Order

/-! Marks: the places that surfaces are sent to. Turtles only send points; other callers may send any data. -/

namespace TurtleGraphics

structure Mark where
  x : Datum
  y : Datum

abbrev Polyline := List Mark

namespace Mark

def ofPoint (p : Point) : Mark := ⟨.number p.x, .number p.y⟩

def origin : Mark := .ofPoint .origin

def same (a b : Mark) : Bool := a.x.same b.x && a.y.same b.y

end Mark

structure Bounds where
  minX : Datum
  minY : Datum
  maxX : Datum
  maxY : Datum

namespace Bounds

/-- The bounds of marks; of equal coordinates the first one is kept. -/
def ofMarks (first : Mark) (rest : List Mark) : Except Fault Bounds := do
  let minX ← Datum.extreme .less first.x (rest.map Mark.x)
  let minY ← Datum.extreme .less first.y (rest.map Mark.y)
  let maxX ← Datum.extreme .greater first.x (rest.map Mark.x)
  let maxY ← Datum.extreme .greater first.y (rest.map Mark.y)
  return ⟨minX, minY, maxX, maxY⟩

end Bounds

namespace Polyline

def endsAt (path : Polyline) (m : Mark) : Bool :=
  match path.getLast? with
  | some last => last.same m
  | none => false

/-- The pairs of consecutive marks. -/
def segments (path : Polyline) : List (Mark × Mark) := path.zip path.tail

theorem length_segments (path : Polyline) : path.segments.length = path.length - 1 := by
  simp [segments]

end Polyline

end TurtleGraphics
