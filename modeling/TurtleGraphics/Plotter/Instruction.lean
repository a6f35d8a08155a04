import TurtleGraphics.Number

/-! The lines of a plotter program: an instruction with an optional remark, or a remark alone. -/

namespace TurtleGraphics.Plotter

/-- What a pen plotter is told. Coordinates are held as they are written. -/
inductive Instruction where
  | millimetres
  | absolute
  | home
  /-- Turns the servo that carries the pen. -/
  | servo (angle : Int)
  | travel (x y : List Char) (speed : Int)
  | draw (x y : List Char) (speed : Int)
  | motorsOff
deriving DecidableEq

inductive Line where
  | remark (text : List Char)
  | step (instruction : Instruction) (remark : Option (List Char))
deriving DecidableEq

abbrev Program := List Line

namespace Instruction

def renderMotion (code x y : List Char) (speed : Int) : List Char :=
  code ++ [' ', 'X'] ++ x ++ [' ', 'Y'] ++ y ++ [' ', 'F'] ++ Number.intText speed

def render : Instruction → List Char
  | .millimetres => "G21".toList
  | .absolute => "G90".toList
  | .home => "G28".toList
  | .servo angle => "M280 P0 S".toList ++ Number.intText angle
  | .travel x y speed => renderMotion ['G', '0'] x y speed
  | .draw x y speed => renderMotion ['G', '1'] x y speed
  | .motorsOff => "M84".toList

def isWritable : Instruction → Bool
  | .servo n | .travel _ _ n | .draw _ _ n => (Number.int n).isWritable
  | _ => true

end Instruction

namespace Line

/-- A remark follows a semicolon. -/
def renderRemark (text : List Char) : List Char := ';' :: ' ' :: text

def render : Line → List Char
  | .remark text => renderRemark text
  | .step i none => i.render
  | .step i (some text) => i.render ++ ' ' :: renderRemark text

def isWritable : Line → Bool
  | .remark _ => true
  | .step i _ => i.isWritable

end Line

namespace Program

/-- One line after the other, without a line feed at the end. -/
def render (p : Program) : List Char := List.intercalate ['\n'] (p.map Line.render)

def text (p : Program) : String := String.ofList p.render

end Program

end TurtleGraphics.Plotter
