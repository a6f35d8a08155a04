import TurtleGraphics.Fault
import TurtleGraphics.Text.LowerCase
import TurtleGraphics.Text.Pieces

/-! Paths of files, and what is known of the files and folders at them. -/

namespace TurtleGraphics

/-- The slashes at the start of a path and the names behind them; a dot between slashes is no name. -/
structure Path where
  root : String
  parts : List String
deriving DecidableEq

namespace Path

/-- Two slashes at the start are kept, and any other number of them is one. -/
def rootOf : List Char → String
  | '/' :: '/' :: '/' :: _ => "/"
  | '/' :: '/' :: _ => "//"
  | '/' :: _ => "/"
  | _ => ""

def isName (piece : List Char) : Bool := piece ≠ [] && piece ≠ ['.']

def ofString (text : String) : Path :=
  ⟨rootOf text.toList, ((Text.pieces '/' text.toList).filter isName).map String.ofList⟩

/-- The folder that the program runs in is written as a dot. -/
def text (p : Path) : String :=
  if p.root.isEmpty && p.parts.isEmpty then "." else p.root ++ String.intercalate "/" p.parts

/-- One name further: two dots step back, which at the start of a relative path leads out of the folder that the
program runs in. -/
def enter (p : Path) (name : String) : Path :=
  if name = ".." then
    if p.parts.all (· = "..") then (if p.root.isEmpty then { p with parts := p.parts ++ [".."] } else p)
    else { p with parts := p.parts.dropLast }
  else { p with parts := p.parts ++ [name] }

/-- The folder that a path starts from. However many slashes there are, it is the same one. -/
def start (p : Path) : Path := ⟨if p.root.isEmpty then "" else "/", []⟩

/-- The folders that are gone through on the way along a path, and the place that it leads to, without steps back
where there are names to step back from. -/
def walk (p : Path) : List Path × Path :=
  p.parts.foldl (fun trail name => (trail.1 ++ [trail.2], trail.2.enter name)) ([], p.start)

def goal (p : Path) : Path := p.walk.2

def parent (p : Path) : Path := { p with parts := p.parts.dropLast }

/-- The path itself and every folder above it. -/
def lineage (p : Path) : List Path := (List.range (p.parts.length + 1)).map fun n => { p with parts := p.parts.take n }

/-- The last point of a name and what follows it. Points at the start of the name do not count. -/
def suffixOf (name : List Char) : List Char :=
  let stem := name.dropWhile (· = '.')
  if stem.contains '.' then '.' :: (stem.reverse.takeWhile (· ≠ '.')).reverse else []

def name (p : Path) : String := p.parts.getLast?.getD ""

def suffix (p : Path) : String := String.ofList (Text.lower (suffixOf p.name.toList))

/-- The number of bytes that a name in a folder may have. -/
def nameCapacity : Nat := 255

/-- The number of bytes that a path may have. -/
def textCapacity : Nat := 4095

def endsLong (p : Path) : Bool := nameCapacity < p.name.utf8ByteSize

/-- Whether a text holds the character that ends texts in the file system, and so cannot name a file. -/
def holdsEnd (text : String) : Bool := text.toList.contains '\x00'

/-- Whether a text can only name a folder. -/
def asksForFolder (text : String) : Bool := (Text.pieces '/' text.toList).getLast?.all (!isName ·)

end Path

/-- The files and folders that are known. -/
structure FileTree where
  files : List (Path × List UInt8)
  folders : List Path

namespace FileTree

/-- A place without names is a folder, and so is one that only steps back. -/
def hasFolder (tree : FileTree) (place : Path) : Bool :=
  place.parts.all (· = "..") || tree.folders.contains place

def fileAt? (tree : FileTree) (place : Path) : Option (List UInt8) :=
  (tree.files.find? (·.1 = place)).map (·.2)

def isOpen (tree : FileTree) (p : Path) : Bool := p.walk.1.all tree.hasFolder

def content? (tree : FileTree) (p : Path) : Option (List UInt8) :=
  if tree.isOpen p then tree.fileAt? p.goal else none

/-- The content of the file that an argument names. The argument is looked at as it is written. -/
def named? (tree : FileTree) (argument : String) : Option (List UInt8) :=
  if Path.asksForFolder argument || Path.textCapacity < argument.utf8ByteSize then none
  else tree.content? (.ofString argument)

def put (tree : FileTree) (p : Path) (bytes : List UInt8) : FileTree :=
  { tree with files := (p.goal, bytes) :: tree.files }

/-- Why no file can be written at a path: it or a name in it is too long, it is a folder, or something on the way
to it is a file or is not there. -/
def obstacle? (tree : FileTree) (p : Path) : Option Fault :=
  if Path.holdsEnd p.text then some .endInPath
  else if Path.textCapacity < p.text.utf8ByteSize then some (.longPath p.text)
  else match p.walk.1.find? fun place => !tree.hasFolder place with
    | some place =>
      if (tree.fileAt? place).isSome then some (.isNoFolder p.text)
      else if place.endsLong then some (.longPath p.text)
      else some (.missingFolder p.text)
    | none =>
      if tree.hasFolder p.goal then some (.isFolder p.text)
      else if p.goal.endsLong then some (.longPath p.text)
      else none

end FileTree

end TurtleGraphics
