import TurtleGraphics.Plotter.Instruction
import TurtleGraphics.Text.Pieces

/-! Reading plotter programs line by line. -/

namespace TurtleGraphics.Plotter

/-- An integer as it is written, with at least one digit. -/
def readInt? : List Char → Option Int
  | '-' :: digits =>
    if !digits.isEmpty && digits.all Char.isDigit then some (-(Nat.ofDigitChars 10 digits 0 : Int)) else none
  | digits => if !digits.isEmpty && digits.all Char.isDigit then some (Nat.ofDigitChars 10 digits 0) else none

namespace Instruction

def ofWords? : List (List Char) → Option Instruction
  | [code] =>
    if code = "G21".toList then some .millimetres
    else if code = "G90".toList then some .absolute
    else if code = "G28".toList then some .home
    else if code = "M84".toList then some .motorsOff
    else none
  | [code, channel, 'S' :: angle] =>
    if code = "M280".toList ∧ channel = "P0".toList then (readInt? angle).map servo else none
  | [code, 'X' :: x, 'Y' :: y, 'F' :: speed] =>
    if code = "G0".toList then (readInt? speed).map (travel x y)
    else if code = "G1".toList then (readInt? speed).map (draw x y)
    else none
  | _ => none

def read? (text : List Char) : Option Instruction := ofWords? (Text.pieces ' ' text)

/-- A finite decimal: digits behind a sign, and perhaps more digits behind a point. -/
def isDecimal (text : List Char) : Bool :=
  let body := if text.head? = some '-' then text.tail else text
  match Text.pieces '.' body with
  | [whole] => !whole.isEmpty && whole.all Char.isDigit
  | [whole, fraction] => !whole.isEmpty && whole.all Char.isDigit && !fraction.isEmpty && fraction.all Char.isDigit
  | _ => false

def hasDecimals : Instruction → Bool
  | .travel x y _ | .draw x y _ => isDecimal x && isDecimal y
  | _ => true

end Instruction

namespace Line

/-- What stands before a remark, and the remark with its semicolon. -/
def splitRemark (text : List Char) : List Char × List Char :=
  (text.takeWhile (· ≠ ';'), text.dropWhile (· ≠ ';'))

/-- The remark of a line behind its semicolon and a blank. -/
def remarkText (text : List Char) : List Char := text.drop 2

/-- A line that starts with a semicolon is a remark; any other line starts with an instruction. -/
def read? (text : List Char) : Option Line :=
  match splitRemark text with
  | ([], note) => if note.isEmpty then none else some (.remark (remarkText note))
  | (code, []) => (Instruction.read? code).map (.step · none)
  | (code, note) => (Instruction.read? code.dropLast).map (.step · (some (remarkText note)))

def instruction? : Line → Option Instruction
  | .step i _ => some i
  | .remark _ => none

end Line

namespace Program

def read? (text : List Char) : Option Program := (Text.pieces '\n' text).mapM Line.read?

def instructions (p : Program) : List Instruction := p.filterMap Line.instruction?

end Program

end TurtleGraphics.Plotter
