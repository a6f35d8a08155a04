import TurtleGraphics.CommandLine.Report
import TurtleGraphics.ImageFile.Format
import TurtleGraphics.Plotter.Drawing
import TurtleGraphics.Surface.Basic

/-! Saving a drawing as an image and as a plotter program. -/

namespace TurtleGraphics

/-- A raster and a recorder that get every call. -/
structure Drawing where
  raster : Raster
  recorder : Recorder

namespace Drawing

def surface (d : Drawing) : Surface := .fanOut [.raster d.raster, .recorder d.recorder]

def ofSurface? : Surface → Option Drawing
  | .fanOut [.raster raster, .recorder recorder] => some ⟨raster, recorder⟩
  | _ => none

end Drawing

structure Destinations where
  image : Option Path
  program : Option Path
deriving DecidableEq

namespace Saving

def openImage (tree : FileTree) (p : Path) : Except Fault ImageFormat := do
  let format ← (ImageFormat.ofSuffix p.suffix).mapError Fault.image
  match tree.obstacle? p with
  | some fault => throw fault
  | none => return format

def check (fault? : Option Fault) : Activity Unit :=
  match fault? with
  | some fault => .ofExcept (.error fault)
  | none => .ofExcept (.ok ())

def savedLine (p : Path) : Event := .say s!"Saved: {p.text}"

/-- An image that is refused leaves a new file unmade, and an old one without what it held. -/
def refuseImage (tree : FileTree) (p : Path) (remains : List UInt8) (cause : ImageFault) : Activity Unit :=
  ⟨if (tree.content? p).isSome then [.writeRemains p remains] else [], .error (.image cause)⟩

def saveImage (tree : FileTree) (image : Image) (p : Path) : Activity Unit := do
  let format ← .ofExcept (openImage tree p)
  let name := p.name.toList
  match format.refusal? name image with
  | some cause => refuseImage tree p (format.remains name image cause) cause
  | none =>
    .emit (.writeImage p image)
    .emit (.notice ⟨.info, "turtlecore.surfaces", s!"Saved {image.width}x{image.height} image to {p.text}"⟩)
    .emit (savedLine p)

/-- The program is made before its file is opened. -/
def saveProgram (tree : FileTree) (s : Settings) (paths : List Polyline) (p : Path) : Activity Unit := do
  let text ← .ofExcept (Plotter.drawingText s "" paths)
  check (tree.obstacle? p)
  .emit (.writeText p text)
  .emit (savedLine p)

def ifGiven (p : Option Path) (save : Path → Activity Unit) : Activity Unit :=
  match p with
  | some p => save p
  | none => .ofExcept (.ok ())

/-- The tree with a file at a path, if there is one. Its content does not matter. -/
def withFile (tree : FileTree) (p : Option Path) : FileTree := p.elim tree fun p => tree.put p []

/-- The image is saved before the program, which then finds the file of the image. -/
def save (tree : FileTree) (s : Settings) (target : Destinations) (d : Drawing) : Activity Unit := do
  ifGiven target.image (saveImage tree d.raster.image)
  ifGiven target.program (saveProgram (withFile tree target.image) s d.recorder.paths)

end Saving

end TurtleGraphics
