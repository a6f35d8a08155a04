import TurtleGraphics.Plotter.Instruction
import TurtleGraphics.Settings.Basic
import TurtleGraphics.Surface.Recorder
import TurtleGraphics.Turtle.Motion

/-! The plotter program of a recorded drawing: the pen is lowered for each path and raised between them. -/

namespace TurtleGraphics.Plotter

/-- A place on the machine in millimetres. Its y axis points up, where that of the canvas points down. -/
structure MachinePoint where
  x : Binary64
  y : Binary64
deriving DecidableEq

/-- Pixels times the millimetres of one pixel. -/
def scaled (pixels : Number) (scale : Binary64) : Except Fault Binary64 :=
  (Motion.binary64 pixels).map (·.mul scale)

/-- A datum as what is subtracted from an integer. -/
def subtrahend (value : Datum) : Except Fault Number :=
  match value.number? with
  | some x => .ok x
  | none => .error (.notSubtrahend value)

/-- The height of a mark above the bottom of the canvas. -/
def elevation (height : Int) (y : Number) : Except Fault Number :=
  match (Number.int height).sub? y with
  | some d => .ok d
  | none => .error .integerTooLarge

def toMachine (s : Settings) (m : Mark) : Except Fault MachinePoint := do
  let x ← scaled (← Motion.factor m.x) s.plotter.mmPerPixel
  let up ← elevation s.canvas.height (← subtrahend m.y)
  return ⟨x, ← scaled up s.plotter.mmPerPixel⟩

def raisePen (s : PlotterSettings) : Line := .step (.servo s.upAngle) (some "raise pen".toList)

def lowerPen (s : PlotterSettings) : Line := .step (.servo s.downAngle) (some "lower pen".toList)

/-- A motion with the pen up, to two places of millimetres. -/
def travelTo (s : PlotterSettings) (p : MachinePoint) : Line :=
  .step (.travel p.x.hundredthsText p.y.hundredthsText s.travelSpeed) none

/-- A motion with the pen down, to two places of millimetres. -/
def drawTo (s : PlotterSettings) (p : MachinePoint) : Line :=
  .step (.draw p.x.hundredthsText p.y.hundredthsText s.drawSpeed) none

/-- The size of the canvas in pixels, and the size of a pixel. -/
def canvasRemark (s : Settings) : List Char :=
  "turtlecore canvas ".toList ++ Number.intText s.canvas.width ++ ['x'] ++ Number.intText s.canvas.height ++
    "px @ ".toList ++ s.plotter.mmPerPixel.shortestText ++ " mm/px".toList

/-- An empty comment is left out. -/
def header (s : Settings) (comment : String) : Program :=
  (if comment.isEmpty then [] else [.remark comment.toList]) ++
    [.remark (canvasRemark s), .step .millimetres (some "millimetres".toList),
      .step .absolute (some "absolute coordinates".toList), raisePen s.plotter,
      .step .home (some "home axes".toList)]

def footer (s : PlotterSettings) : Program :=
  [raisePen s, .step (.travel ['0'] ['0'] s.travelSpeed) (some "park".toList),
    .step .motorsOff (some "motors off".toList)]

/-- Writes a line, unless an integer in it has too many digits. -/
def emit (line : Line) : Except Fault Line := if line.isWritable then .ok line else .error .digitLimit

/-- The lines of a header. The size of the canvas is written first. -/
def opening (s : Settings) (comment : String) : Except Fault Program :=
  if (Number.int s.canvas.width).isWritable && (Number.int s.canvas.height).isWritable then
    (header s comment).mapM emit
  else .error .digitLimit

def stopAt (s : Settings) (m : Mark) : Except Fault Line := do emit (drawTo s.plotter (← toMachine s m))

/-- The lines of one path. Fewer than two marks draw nothing. -/
def pathLines (s : Settings) : Polyline → Except Fault Program
  | first :: second :: rest => do
    let start ← emit (travelTo s.plotter (← toMachine s first))
    let lower ← emit (lowerPen s.plotter)
    let stops ← (second :: rest).mapM (stopAt s)
    let raise ← emit (raisePen s.plotter)
    return start :: lower :: (stops ++ [raise])
  | _ => .ok []

def drawing (s : Settings) (comment : String) (paths : List Polyline) : Except Fault Program := do
  let opening ← opening s comment
  let bodies ← paths.mapM (pathLines s)
  let closing ← (footer s.plotter).mapM emit
  return opening ++ bodies.flatten ++ closing

def drawingText (s : Settings) (comment : String) (paths : List Polyline) : Except Fault String :=
  (drawing s comment paths).map Program.text

end TurtleGraphics.Plotter
