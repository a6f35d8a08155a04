import TurtleGraphics.Platform
import TurtleGraphics.Schema.Validation
import TurtleGraphics.Turtle.Validate

/-! The settings of a drawing, and how they are read from JSON. -/

namespace TurtleGraphics

structure CanvasSettings where
  width : Int
  height : Int
  background : LooseText
  ink : LooseText
  lineWidth : Int
deriving DecidableEq

structure StartSettings where
  x : Binary64
  y : Binary64
  heading : Binary64
  pen : Pen
deriving DecidableEq

structure PlotterSettings where
  mmPerPixel : Binary64
  upAngle : Int
  downAngle : Int
  travelSpeed : Int
  drawSpeed : Int
deriving DecidableEq

structure Settings where
  canvas : CanvasSettings
  start : StartSettings
  plotter : PlotterSettings
deriving DecidableEq

namespace CanvasSettings

def standard : CanvasSettings := ⟨800, 600, .whole "white", .whole "black", 1⟩

end CanvasSettings

namespace StartSettings

def standard : StartSettings := ⟨.ofInt 100, .ofInt 100, .ofInt 90, .up⟩

/-- The turtle that a drawing starts with. Coordinates that are not finite are refused only here. -/
def turtle (s : StartSettings) : Except Fault Turtle :=
  Validate.turtle (.tuple [.float s.x, .float s.y]) (.float s.heading) (.text s.pen.text)

end StartSettings

namespace PlotterSettings

def standard : PlotterSettings := ⟨.ofDecimal false ⟨5, -1⟩, 90, 40, 1000, 500⟩

end PlotterSettings

namespace Settings

def standard : Settings := ⟨.standard, .standard, .standard⟩

variable [Validation]

abbrev Members := List (LooseText × Json)

/-- A field by its name; one that is absent keeps its standard value. -/
def field {α : Type} (owner name : String) (members : Members) (standard : α)
    (read : Json → Except IssueCause α) : Checked α :=
  match Json.member? name members with
  | none => .ok standard
  | some j => (read j).mapError fun cause => [⟨[.name owner, .name name], cause⟩]

def validated {α : Type} (result : Except Fault α) : Except IssueCause α :=
  result.mapError fun fault => .rejected fault.message

def readHeading (j : Json) : Except IssueCause Binary64 := do
  let x ← Validation.anyNumber j
  let _ ← validated (Validate.headingNumber (.float x))
  return x

def readPen (j : Json) : Except IssueCause Pen := do
  validated (Validate.pen (.ofLooseText (← Validation.looseText j)))

def readCanvas (members : Members) : Checked CanvasSettings :=
  let std := CanvasSettings.standard
  Checked.apply
    (Checked.apply
      (Checked.apply
        (Checked.both CanvasSettings.mk
          (field "canvas" "width" members std.width Validation.integer)
          (field "canvas" "height" members std.height Validation.integer))
        (field "canvas" "background" members std.background Validation.looseText))
      (field "canvas" "ink" members std.ink Validation.looseText))
    (field "canvas" "line_width" members std.lineWidth Validation.integer)

def readStart (members : Members) : Checked StartSettings :=
  let std := StartSettings.standard
  Checked.apply
    (Checked.apply
      (Checked.both StartSettings.mk
        (field "start" "x" members std.x Validation.anyNumber)
        (field "start" "y" members std.y Validation.anyNumber))
      (field "start" "heading" members std.heading readHeading))
    (field "start" "pen" members std.pen readPen)

def readPlotter (members : Members) : Checked PlotterSettings :=
  let std := PlotterSettings.standard
  Checked.apply
    (Checked.apply
      (Checked.apply
        (Checked.both PlotterSettings.mk
          (field "plotter" "mm_per_px" members std.mmPerPixel Validation.anyNumber)
          (field "plotter" "up_angle" members std.upAngle Validation.integer))
        (field "plotter" "down_angle" members std.downAngle Validation.integer))
      (field "plotter" "travel_speed" members std.travelSpeed Validation.integer))
    (field "plotter" "draw_speed" members std.drawSpeed Validation.integer)

/-- A section by its name; one that is absent is standard, and one that is there has to be an object. -/
def readSection {α : Type} (name owner : String) (members : Members) (standard : α)
    (read : Members → Checked α) : Checked α :=
  match Json.member? name members with
  | none => .ok standard
  | some (.object inner) => read inner
  | some _ => .error [⟨[.name name], .notSection owner⟩]

def ofMembers (members : Members) : Checked Settings :=
  Checked.apply
    (Checked.both Settings.mk
      (readSection "canvas" "CanvasConfig" members .standard readCanvas)
      (readSection "start" "StartConfig" members .standard readStart))
    (readSection "plotter" "PlotterConfig" members .standard readPlotter)

def ofJson : Json → Except Fault Settings
  | .object members => (ofMembers members).mapError Fault.settings
  | j => .error (.notMapping j)

def load [Platform] (bytes : List UInt8) : Except Fault Settings :=
  match Text.Utf8.decode bytes with
  | .error defect => .error (.notUtf8 defect)
  | .ok text =>
    match Json.parse (.lenient Platform.jsonDepth) (Text.unifyLineEnds text) with
    | .error fault => .error (.notJson fault)
    | .ok j => ofJson j

end Settings

end TurtleGraphics
