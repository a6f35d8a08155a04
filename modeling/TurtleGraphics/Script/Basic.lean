import TurtleGraphics.Command.Basic
import TurtleGraphics.Schema.Validation

/-! Command scripts: a JSON array of objects with a name and perhaps a value. -/

namespace TurtleGraphics

structure ScriptLine where
  name : String
  value : Option Binary64
deriving DecidableEq

namespace ScriptLine

def toCommand (line : ScriptLine) : Command :=
  ⟨.text line.name, line.value.elim .null Datum.float⟩

end ScriptLine

namespace Script

variable [Validation]

/-- The issue of one member of the item at a place. -/
def issue (place : Nat) (member : String) (cause : IssueCause) : Issue :=
  ⟨[.index place, .name member], cause⟩

def readName (place : Nat) (members : List (LooseText × Json)) : Checked String :=
  match Json.member? "name" members with
  | none => .error [issue place "name" .missing]
  | some j => (Validation.text j).mapError fun cause => [issue place "name" cause]

/-- An absent value and a null are no value. -/
def readAmount (place : Nat) (members : List (LooseText × Json)) : Checked (Option Binary64) :=
  match Json.member? "value" members with
  | none | some .null => .ok none
  | some j => ((Validation.finiteNumber j).map some).mapError fun cause => [issue place "value" cause]

def readLine (place : Nat) : Json → Checked ScriptLine
  | .object members => Checked.both ScriptLine.mk (readName place members) (readAmount place members)
  | _ => .error [⟨[.index place], .notObject⟩]

def readLines (place : Nat) : List Json → Checked (List ScriptLine)
  | [] => .ok []
  | j :: rest => Checked.both List.cons (readLine place j) (readLines (place + 1) rest)

/-- The lines of a script, or everything that is wrong with it. -/
def ofJson : Json → Checked (List ScriptLine)
  | .array items => readLines 0 items
  | _ => .error [⟨[], .notList⟩]

def parse (bytes : List UInt8) : Checked (List ScriptLine) :=
  match Validation.strictJson? bytes with
  | some j => ofJson j
  | none => .error [⟨[], .notJson⟩]

def load (bytes : List UInt8) : Except Fault (List Command) :=
  match parse bytes with
  | .ok lines => .ok (lines.map ScriptLine.toCommand)
  | .error issues => .error (.script issues)

end Script

end TurtleGraphics
