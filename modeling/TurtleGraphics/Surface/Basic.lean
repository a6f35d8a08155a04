import TurtleGraphics.Surface.Raster

/-! Drawing surfaces: a recorder, a raster, or several surfaces that get every call in order. -/

namespace TurtleGraphics

inductive Surface where
  | recorder (r : Recorder)
  | raster (r : Raster)
  | fanOut (members : List Surface)

inductive SurfaceCall where
  | moveTo (m : Mark)
  | lineTo (m : Mark)
  | stroke

namespace Surface

instance : Inhabited Surface := ⟨.recorder .empty⟩

mutual

/-- One call. A fault stops the call: the members that come later do not get it. -/
def call (c : SurfaceCall) : Surface → Surface × Option Fault
  | .recorder r =>
    match c with
    | .moveTo m => (.recorder (r.moveTo m), none)
    | .lineTo m => (.recorder (r.lineTo m), none)
    | .stroke => (.recorder r.stroke, none)
  | .raster r =>
    match c with
    | .moveTo m => (.raster (r.moveTo m), none)
    | .lineTo m => (.raster (r.lineTo m), none)
    | .stroke => (.raster r.stroke.1, r.stroke.2)
  | .fanOut members => (.fanOut (callAll c members).1, (callAll c members).2)
termination_by structural s => s

def callAll (c : SurfaceCall) : List Surface → List Surface × Option Fault
  | [] => ([], none)
  | s :: rest =>
    match s.call c with
    | (s, some fault) => (s :: rest, some fault)
    | (s, none) => (s :: (callAll c rest).1, (callAll c rest).2)
termination_by structural members => members

end

/-- Calls in order, up to the first fault. -/
def calls (s : Surface) : List SurfaceCall → Surface × Option Fault
  | [] => (s, none)
  | c :: rest =>
    match s.call c with
    | (s, some fault) => (s, some fault)
    | (s, none) => s.calls rest

end Surface

end TurtleGraphics
