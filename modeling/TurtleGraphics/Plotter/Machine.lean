import TurtleGraphics.Plotter.Instruction
import TurtleGraphics.Vocabulary

/-! A machine that follows plotter programs and keeps what its pen draws. -/

namespace TurtleGraphics.Plotter

/-- A place by its two coordinates as they are written. -/
abbrev Spot := List Char × List Char

/-- The angles of the servo at which the pen is up and down. -/
structure PenAngles where
  up : Int
  down : Int
deriving DecidableEq

structure Machine where
  /-- The state of the pen, once the servo was turned. -/
  pen : Option Pen
  /-- The last place that was named. -/
  spot : Option Spot
  /-- The places that the lowered pen has been at. -/
  trail : List Spot
  /-- What was drawn between a lowering and the next raising, in order. -/
  traced : List (List Spot)
deriving DecidableEq

namespace Machine

def start : Machine := ⟨none, none, [], []⟩

def raise (m : Machine) : Machine :=
  match m.pen with
  | some .down => { m with pen := some .up, trail := [], traced := m.traced ++ [m.trail] }
  | _ => { m with pen := some .up }

/-- The pen is lowered at a place that was named. -/
def lower (m : Machine) : Option Machine :=
  match m.pen, m.spot with
  | some .up, some p => some { m with pen := some .down, trail := [p] }
  | _, _ => none

/-- One instruction. Drawing needs a lowered pen; travelling, going home and stopping need a raised one. -/
def step (angles : PenAngles) (m : Machine) : Instruction → Option Machine
  | .millimetres | .absolute => some m
  | .home => if m.pen = some .up then some { m with spot := none } else none
  | .motorsOff => if m.pen = some .up then some m else none
  | .servo angle =>
    if angle = angles.up then some m.raise else if angle = angles.down then m.lower else none
  | .travel x y _ => if m.pen = some .up then some { m with spot := some (x, y) } else none
  | .draw x y _ =>
    if m.pen = some .down then some { m with spot := some (x, y), trail := m.trail ++ [(x, y)] } else none

/-- Instructions in order, as long as each is allowed. -/
def run (angles : PenAngles) : Machine → List Instruction → Option Machine
  | m, [] => some m
  | m, i :: rest => (m.step angles i).bind fun m => m.run angles rest

theorem run_append (angles : PenAngles) (m : Machine) (first second : List Instruction) :
    m.run angles (first ++ second) = (m.run angles first).bind fun m => m.run angles second := by
  induction first generalizing m with
  | nil => rfl
  | cons i rest ih => cases h : m.step angles i <;> simp [run, h, ih]

end Machine

end TurtleGraphics.Plotter
