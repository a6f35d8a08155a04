import TurtleGraphics.CommandLine.Path
import TurtleGraphics.Surface.Image

/-! What the program does: lines, notices and files, and how it ends. -/

namespace TurtleGraphics

/-- Notices of the second kind are for those who ask for details. -/
inductive Level where
  | info
  | debug
deriving DecidableEq

structure Notice where
  level : Level
  source : String
  text : String
deriving DecidableEq

inductive Event where
  | say (line : String)
  | notice (n : Notice)
  | writeText (path : Path) (text : String)
  | writeImage (path : Path) (image : Image)
  /-- What an image that is refused leaves in its file. -/
  | writeRemains (path : Path) (bytes : List UInt8)

/-- How the program ends: well, with a reported error, with a fault that nothing reports, or without a task. -/
inductive Ending where
  | success
  | refused (message : String)
  | failed (fault : Fault)
  | misused

structure Report where
  events : List Event
  ending : Ending

namespace Notice

def levelName : Level → String
  | .info => "INFO"
  | .debug => "DEBUG"

def line (n : Notice) : String := s!"{levelName n.level} {n.source}: {n.text}"

end Notice

namespace Event

def isShown (verbose : Bool) : Event → Bool
  | .notice n => verbose || n.level = .info
  | _ => true

def line? : Event → Option String
  | .say line => some line
  | _ => none

def noticeLine? : Event → Option String
  | .notice n => some n.line
  | _ => none

end Event

namespace Report

def isParameter (c : Char) : Bool := '0' ≤ c && c ≤ '?'

/-- What may stand between the parameters of a control sequence and its end. -/
def isIntermediate (c : Char) : Bool := ' ' ≤ c && c ≤ '/'

def isFinal (c : Char) : Bool := '@' ≤ c && c ≤ '~'

/-- The length of the control sequence that a text starts with, or zero. -/
def codeLength : List Char → Nat
  | '\x1b' :: '[' :: rest =>
    let behind := rest.dropWhile isParameter
    match behind.dropWhile isIntermediate with
    | last :: _ =>
      if isFinal last then (rest.takeWhile isParameter).length + (behind.takeWhile isIntermediate).length + 3 else 0
    | [] => 0
  | _ => 0

/-- Drops a number of characters, and then the control sequences of the text. -/
def dropCodes : (skip : Nat) → List Char → List Char
  | _, [] => []
  | skip + 1, _ :: rest => dropCodes skip rest
  | 0, c :: rest =>
    match codeLength (c :: rest) with
    | 0 => c :: dropCodes 0 rest
    | skip + 1 => dropCodes skip rest

def plain (text : String) : String := String.ofList (dropCodes 0 text.toList)

def exitCode (r : Report) : Nat :=
  match r.ending with
  | .success => 0
  | .refused _ | .failed _ => 1
  | .misused => 2

/-- All that is said, each line ended by a line feed. -/
def output (r : Report) : String := String.join ((r.events.filterMap Event.line?).map fun line => plain line ++ "\n")

def notices (r : Report) : List String := r.events.filterMap Event.noticeLine?

/-- The report of an error, over as many lines as its message has. -/
def errorText? (r : Report) : Option String :=
  match r.ending with
  | .refused message => some (plain s!"Error: {message}")
  | _ => none

/-- The lines of the notices and of the report of an error. -/
def messages (r : Report) : List String := r.notices ++ r.errorText?.toList

def written? (r : Report) (place : Path) : Option Event :=
  r.events.reverse.find? fun e =>
    match e with
    | .writeText p _ | .writeImage p _ | .writeRemains p _ => p.goal = place
    | _ => false

end Report

/-- Events, and the value or the fault that they ended in. -/
structure Activity (α : Type) where
  events : List Event
  result : Except Fault α

namespace Activity

def emit (e : Event) : Activity Unit := ⟨[e], .ok ()⟩

def ofExcept {α : Type} (result : Except Fault α) : Activity α := ⟨[], result⟩

/-- Goes on unless there was a fault. -/
def andThen {α β : Type} (a : Activity α) (next : α → Activity β) : Activity β :=
  match a.result with
  | .ok x => ⟨a.events ++ (next x).events, (next x).result⟩
  | .error fault => ⟨a.events, .error fault⟩

/-- Goes on in any case. A fault of what comes last hides an earlier one. -/
def andFinally {α : Type} (a : Activity α) (last : Activity Unit) : Activity α :=
  match last.result with
  | .ok _ => ⟨a.events ++ last.events, a.result⟩
  | .error fault => ⟨a.events ++ last.events, .error fault⟩

instance : Monad Activity where
  pure x := ⟨[], .ok x⟩
  bind := andThen

end Activity

end TurtleGraphics
