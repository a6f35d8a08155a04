import TurtleGraphics.Binary64.Arithmetic
import TurtleGraphics.Binary64.Basic
import TurtleGraphics.Binary64.Circular
import TurtleGraphics.Command.Basic
import TurtleGraphics.Command.Run
import TurtleGraphics.CommandLine.Arguments
import TurtleGraphics.CommandLine.Path
import TurtleGraphics.CommandLine.Program
import TurtleGraphics.CommandLine.Report
import TurtleGraphics.CommandLine.Saving
import TurtleGraphics.Datum.Basic
import TurtleGraphics.Datum.Display
import TurtleGraphics.Datum.Json
import TurtleGraphics.Datum.Order
import TurtleGraphics.Datum.Stream
import TurtleGraphics.Datum.StreamText
import TurtleGraphics.Decimal.Basic
import TurtleGraphics.Decimal.Layout
import TurtleGraphics.Decimal.Numeral
import TurtleGraphics.Decimal.Shortest
import TurtleGraphics.Fault
import TurtleGraphics.ImageFile.Content
import TurtleGraphics.ImageFile.Deflate
import TurtleGraphics.ImageFile.Fault
import TurtleGraphics.ImageFile.Format
import TurtleGraphics.ImageFile.Icon
import TurtleGraphics.ImageFile.Layout
import TurtleGraphics.ImageFile.Opening
import TurtleGraphics.ImageFile.Png
import TurtleGraphics.ImageFile.Qoi
import TurtleGraphics.Json.Basic
import TurtleGraphics.Json.Reader
import TurtleGraphics.Json.Writer
import TurtleGraphics.Main
import TurtleGraphics.Number
import TurtleGraphics.Pipeline
import TurtleGraphics.Platform
import TurtleGraphics.Plotter.Drawing
import TurtleGraphics.Plotter.Instruction
import TurtleGraphics.Plotter.Machine
import TurtleGraphics.Plotter.Reader
import TurtleGraphics.Rounding
import TurtleGraphics.Schema.Coerce
import TurtleGraphics.Schema.Issue
import TurtleGraphics.Schema.Validation
import TurtleGraphics.Script.Basic
import TurtleGraphics.Script.Writer
import TurtleGraphics.Session
import TurtleGraphics.Settings.Basic
import TurtleGraphics.Settings.Sheet
import TurtleGraphics.Standard
import TurtleGraphics.Surface.Basic
import TurtleGraphics.Surface.Colour
import TurtleGraphics.Surface.Image
import TurtleGraphics.Surface.Imaging
import TurtleGraphics.Surface.Mark
import TurtleGraphics.Surface.Painter
import TurtleGraphics.Surface.Raster
import TurtleGraphics.Surface.Recorder
import TurtleGraphics.Text.Blank
import TurtleGraphics.Text.Hex
import TurtleGraphics.Text.LetterCase
import TurtleGraphics.Text.LooseText
import TurtleGraphics.Text.LowerCase
import TurtleGraphics.Text.Pieces
import TurtleGraphics.Text.Printable
import TurtleGraphics.Text.Quoted
import TurtleGraphics.Text.Utf8
import TurtleGraphics.Turtle.Basic
import TurtleGraphics.Turtle.Motion
import TurtleGraphics.Turtle.Transition
import TurtleGraphics.Turtle.Validate
import TurtleGraphics.Vocabulary
import TurtleGraphics.Proofs.Binary64.Exact
import TurtleGraphics.Proofs.Binary64.Monotone
import TurtleGraphics.Proofs.Binary64.Overflow
import TurtleGraphics.Proofs.Binary64.Sums
import TurtleGraphics.Proofs.Command.CommittedPrefix
import TurtleGraphics.Proofs.Command.Composition
import TurtleGraphics.Proofs.Command.PenPlacement
import TurtleGraphics.Proofs.Command.Stillness
import TurtleGraphics.Proofs.Command.Trajectory
import TurtleGraphics.Proofs.Command.Turns
import TurtleGraphics.Proofs.Command.Unknown
import TurtleGraphics.Proofs.CommandLine.Answers
import TurtleGraphics.Proofs.CommandLine.Endings
import TurtleGraphics.Proofs.CommandLine.Listing
import TurtleGraphics.Proofs.CommandLine.Saving
import TurtleGraphics.Proofs.Decimal.Characters
import TurtleGraphics.Proofs.Decimal.FreeText
import TurtleGraphics.Proofs.Decimal.Shortest
import TurtleGraphics.Proofs.Decimal.Value
import TurtleGraphics.Proofs.Json.Ascii
import TurtleGraphics.Proofs.Json.Depth
import TurtleGraphics.Proofs.Json.Grammar
import TurtleGraphics.Proofs.Json.NumberText
import TurtleGraphics.Proofs.Json.Numbers
import TurtleGraphics.Proofs.Json.Readings
import TurtleGraphics.Proofs.Json.Scalars
import TurtleGraphics.Proofs.Json.Spelling
import TurtleGraphics.Proofs.Json.Texts
import TurtleGraphics.Proofs.Json.Values
import TurtleGraphics.Proofs.Plotter.Area
import TurtleGraphics.Proofs.Plotter.Drawing
import TurtleGraphics.Proofs.Plotter.Reading
import TurtleGraphics.Proofs.Plotter.Tracing
import TurtleGraphics.Proofs.Plotter.WellFormed
import TurtleGraphics.Proofs.Schema.Coerce
import TurtleGraphics.Proofs.Schema.Validation
import TurtleGraphics.Proofs.Script.Faults
import TurtleGraphics.Proofs.Script.Fields
import TurtleGraphics.Proofs.Script.KeptNumbers
import TurtleGraphics.Proofs.Script.Language
import TurtleGraphics.Proofs.Script.Lines
import TurtleGraphics.Proofs.Script.Replay
import TurtleGraphics.Proofs.Script.RoundTrip
import TurtleGraphics.Proofs.Session.Transparency
import TurtleGraphics.Proofs.Settings.Agreement
import TurtleGraphics.Proofs.Settings.Reading
import TurtleGraphics.Proofs.Settings.RoundTrip
import TurtleGraphics.Proofs.Settings.Saving
import TurtleGraphics.Proofs.Settings.Start
import TurtleGraphics.Proofs.Surface.Bounds
import TurtleGraphics.Proofs.Surface.Calls
import TurtleGraphics.Proofs.Surface.Fault
import TurtleGraphics.Proofs.Surface.Imaging
import TurtleGraphics.Proofs.Surface.Kept
import TurtleGraphics.Proofs.Surface.Leaves
import TurtleGraphics.Proofs.Surface.Lines
import TurtleGraphics.Proofs.Surface.Painter
import TurtleGraphics.Proofs.Surface.Painting
import TurtleGraphics.Proofs.Surface.Paths
import TurtleGraphics.Proofs.Surface.Recorder
import TurtleGraphics.Proofs.Text.Utf8
import TurtleGraphics.Proofs.Turtle.Acceptance
import TurtleGraphics.Proofs.Turtle.Contract
import TurtleGraphics.Proofs.Turtle.Crew
import TurtleGraphics.Proofs.Turtle.Direction
import TurtleGraphics.Proofs.Turtle.Motion
import TurtleGraphics.Proofs.Turtle.Reachable
import TurtleGraphics.Proofs.Turtle.Studio
import TurtleGraphics.Proofs.Turtle.Transition
