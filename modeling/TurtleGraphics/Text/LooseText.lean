import TurtleGraphics.Text.LowerCase
import TurtleGraphics.Text.Quoted

/-! Texts that may hold surrogates without their other halves, as escapes can spell them. -/

namespace TurtleGraphics

/-- A character, or a surrogate that has no other half. -/
inductive CodePoint where
  | char (c : Char)
  | surrogate (unit : Nat)
deriving DecidableEq

namespace CodePoint

def char? : CodePoint → Option Char
  | .char c => some c
  | .surrogate _ => none

/-- A surrogate is never shown as it is. -/
def quoted (quote : Char) : CodePoint → List Char
  | .char c => Text.quotedChar quote c
  | .surrogate unit => Text.numericEscape unit

/-- The lower case of code points behind a reversed run of characters. A surrogate belongs to no word. -/
def lowerFrom (run : List Char) : List CodePoint → List CodePoint
  | [] => (Text.lower run.reverse).map .char
  | .char c :: rest => lowerFrom (c :: run) rest
  | .surrogate unit :: rest => (Text.lower run.reverse).map .char ++ .surrogate unit :: lowerFrom [] rest

/-- Code points between quotes. -/
def quotedAll (points : List CodePoint) : List Char :=
  let quote := Text.quoteFor (points.contains (.char '\'')) (points.contains (.char '"'))
  quote :: points.flatMap (quoted quote) ++ [quote]

end CodePoint

/-- A text of characters, or one with at least one surrogate that has no other half. -/
inductive LooseText where
  | whole (s : String)
  | broken (points : List CodePoint)
deriving DecidableEq

namespace LooseText

def ofPoints (points : List CodePoint) : LooseText :=
  match points.mapM CodePoint.char? with
  | some chars => .whole (String.ofList chars)
  | none => .broken points

def length : LooseText → Nat
  | .whole s => s.length
  | .broken points => points.length

def isWhole : LooseText → Bool
  | .whole _ => true
  | .broken _ => false

def lower : LooseText → LooseText
  | .whole s => .whole (String.ofList (Text.lower s.toList))
  | .broken points => .broken (CodePoint.lowerFrom [] points)

end LooseText

end TurtleGraphics
