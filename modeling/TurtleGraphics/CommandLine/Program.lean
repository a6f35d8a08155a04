import TurtleGraphics.Command.Run
import TurtleGraphics.CommandLine.Arguments
import TurtleGraphics.CommandLine.Saving
import TurtleGraphics.Script.Basic

/-! The program: running a script, listing the commands of a script, and drawing a square. -/

namespace TurtleGraphics

namespace Program

variable [Platform] [Validation] [Imaging]

/-- Reads a script and tells the number of its commands. -/
def loadScript (p : Path) (bytes : List UInt8) : Activity (List ScriptLine) := do
  let lines ← .ofExcept ((Script.parse bytes).mapError Fault.script)
  .emit (.notice ⟨.info, "turtlecore.script", s!"Loaded {lines.length} commands from {p.text}"⟩)
  return lines

def skipNotice (c : Command) (place : Nat) : Event :=
  .notice ⟨.debug, "turtlecore.commands", s!"command {place}: unknown name {c.name.displayText}, skipping"⟩

/-- The notices for the unknown ones of the commands that a run reaches. -/
def skipNotices (reached : List Command) : List Event :=
  (reached.zipIdx.filter fun c => !c.1.isKnown).map fun c => skipNotice c.1 c.2

/-- A run of commands on a drawing, with what is left on the drawing whether it fails or not. -/
def runCommands (commands : List Command) (start : Turtle) (d : Drawing) : Activity Turtle × Drawing :=
  let o := Command.run commands start d.surface
  let reached := commands.take (Command.completed commands start d.surface + 1)
  (⟨skipNotices reached, o.result⟩, (Drawing.ofSurface? o.surface).getD d)

def blankDrawing (c : CanvasSettings) : Except Fault Drawing :=
  (Raster.make c.width c.height c.background c.ink c.lineWidth).map (⟨·, .empty⟩)

/-- Draws, and saves what was drawn also when a command fails. -/
def draw (tree : FileTree) (s : Settings) (target : Destinations) (commands : List Command) : Activity Turtle := do
  let blank ← .ofExcept (blankDrawing s.canvas)
  let start ← .ofExcept s.start.turtle
  let (run, drawn) := runCommands commands start blank
  let turtle ← run.andFinally (Saving.save tree s target drawn)
  .emit (.notice ⟨.debug, "turtlecore.cli",
    s!"Recorded {drawn.recorder.paths.length} paths from {drawn.recorder.strokes} strokes"⟩)
  return turtle

/-- Faults of the domain, of scripts and of settings are reported. -/
def ending (settings : String) (fault : Fault) : Ending :=
  match fault.kind with
  | .domain | .script => .refused fault.message
  | .validation => .refused s!"invalid config {settings}: {fault.message}"
  | _ => .failed fault

def finish {α : Type} (a : Activity α) (onFault : Fault → Ending) (last : α → List Event) : Report :=
  match a.result with
  | .ok x => ⟨a.events ++ last x, .success⟩
  | .error fault => ⟨a.events, onFault fault⟩

def describeLine (t : Turtle) : List Event := [.say t.describe]

def misuse : Report := ⟨[], .misused⟩

/-- Runs a script. Without a settings file the settings are standard. -/
def run (tree : FileTree) (script : Path) (bytes : List UInt8) (settings : Option (Path × List UInt8))
    (target : Destinations) : Report :=
  let activity : Activity Turtle := do
    let lines ← loadScript script bytes
    let s ← .ofExcept (settings.elim (.ok .standard) fun file => Settings.load file.2)
    draw tree s target (lines.map ScriptLine.toCommand)
  finish activity (ending (settings.elim "" (·.1.text))) describeLine

/-- What is done with the content of a file, when the argument that names it can be used. -/
def withFile (tree : FileTree) (argument : String) (next : List UInt8 → Report) : Report :=
  if Path.holdsEnd argument then ⟨[], .failed .endInPath⟩
  else (tree.named? argument).elim misuse next

/-- What is done with the content of the script that the first operand names. That there are more operands is
noticed after the script is found. -/
def withScript (tree : FileTree) (operands : List String) (next : Path → List UInt8 → Report) : Report :=
  match operands with
  | [] => misuse
  | script :: surplus =>
    withFile tree script fun bytes => if surplus.isEmpty then next (.ofString script) bytes else misuse

/-- Runs a script when the files that are named are there. The settings file is looked for first. -/
def runNamed (tree : FileTree) (operands : List String) (settings image program : Option String) : Report :=
  let target : Destinations := ⟨image.map .ofString, program.map .ofString⟩
  match settings with
  | none => withScript tree operands fun script bytes => run tree script bytes none target
  | some name =>
    withFile tree name fun file =>
      withScript tree operands fun script bytes => run tree script bytes (some (.ofString name, file)) target

/-- A number in at least four columns. -/
def column (n : Nat) : List Char :=
  let digits := Nat.toDigits 10 n
  List.replicate (4 - digits.length) ' ' ++ digits

def listingLine (number : Nat) (line : ScriptLine) : String :=
  let amount := line.value.elim "" fun x => " " ++ String.ofList x.briefText
  let note := if line.toCommand.isKnown then "" else "  (unknown, no-op)"
  String.ofList (column number) ++ "  " ++ line.name ++ amount ++ note

def listing (lines : List ScriptLine) : List Event :=
  ((lines.zipIdx 1).map fun l => Event.say (listingLine l.2 l.1)) ++ [.say s!"{lines.length} commands"]

def checkNamed (tree : FileTree) (operands : List String) : Report :=
  withScript tree operands fun script bytes => finish (loadScript script bytes) (ending "") listing

def side : Command := ⟨.text Verb.move.text, .int 50⟩

def corner : Command := ⟨.text Verb.turn.text, .int 90⟩

def square : List Command :=
  [⟨.text Verb.penDown.text, .null⟩, side, corner, side, corner, side, corner, side, ⟨.text Verb.penUp.text, .null⟩]

/-- Draws the square. No fault of it is reported. -/
def demo (tree : FileTree) (image : Option String) : Report :=
  finish (draw tree .standard ⟨image.map .ofString, none⟩ square) .failed describeLine

def usage : List String :=
  ["Usage: turtlecore [-v] run SCRIPT [-c CONFIG] [--png FILE] [--gcode FILE]",
    "       turtlecore [-v] check SCRIPT",
    "       turtlecore [-v] demo [--png FILE]"]

def perform (tree : FileTree) : Task → Report
  | .run operands settings image program => runNamed tree operands settings image program
  | .check operands => checkNamed tree operands
  | .demo image => demo tree image
  | .help => ⟨usage.map Event.say, .success⟩

/-- What the program does for its arguments, with the details when they are asked for. -/
def respond (tree : FileTree) (arguments : List String) : Report :=
  match Request.read? arguments with
  | none => misuse
  | some request =>
    let r := perform tree request.task
    { r with events := r.events.filter (Event.isShown request.verbose) }

end Program

end TurtleGraphics
