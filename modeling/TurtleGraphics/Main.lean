import TurtleGraphics.CommandLine.Program
import TurtleGraphics.ImageFile.Png
import TurtleGraphics.Standard

/-! The command line: looks at the files that the arguments name, asks the program, and does what it says. -/

namespace TurtleGraphics.Main

open Standard

def tryRead (name : String) : IO (Option (List UInt8)) := do
  try return some (← IO.FS.readBinFile name).toList
  catch _ => return none

def isFolder (name : String) : IO Bool := do
  try
    let _ ← IO.FS.realPath (name ++ "/.")
    return true
  catch _ => return false

/-- What the file system holds at the names, each at the place that it leads to. -/
def look (names : List String) : IO FileTree := do
  let paths := names.map Path.ofString
  let files ← paths.filterMapM fun p => do return (← tryRead p.text).map (p.goal, ·)
  let folders ← (paths.flatMap Path.lineage).filterM fun p => isFolder p.text
  return ⟨files, folders.map Path.goal⟩

/-- The bytes of an image file. Where the format leaves a choice they are those of PNG. -/
def imageBytes (p : Path) (image : Image) : List UInt8 :=
  match ImageFormat.contentOf? p.suffix p.name.toList image with
  | some ⟨head, some rest⟩ => head ++ rest
  | _ => Png.encode image

def perform : Event → IO Unit
  | .say line => IO.println (Report.plain line)
  | .notice n => IO.eprintln n.line
  | .writeText p text => IO.FS.writeFile p.text text
  | .writeImage p image => IO.FS.writeBinFile p.text ⟨(imageBytes p image).toArray⟩
  | .writeRemains p bytes => IO.FS.writeBinFile p.text ⟨bytes.toArray⟩

def conclude (r : Report) : IO Unit :=
  match r.ending with
  | .success => return ()
  | .refused _ => IO.eprintln (r.errorText?.getD "")
  | .failed fault => IO.eprintln fault.message
  | .misused => Program.usage.forM fun line => IO.eprintln line

def respond (arguments : List String) : IO Report := do
  let names := (Request.read? arguments).elim [] fun request => request.task.names
  return Program.respond (← look names) arguments

end TurtleGraphics.Main

def main (arguments : List String) : IO UInt32 := do
  let report ← TurtleGraphics.Main.respond arguments
  report.events.forM TurtleGraphics.Main.perform
  TurtleGraphics.Main.conclude report
  return UInt32.ofNat report.exitCode
