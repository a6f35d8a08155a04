import TurtleGraphics.Number
import TurtleGraphics.Text.LooseText

/-! JSON values as they are read and written, integers apart from other numbers. -/

namespace TurtleGraphics

inductive Json where
  | null
  | bool (b : Bool)
  | int (n : Int)
  | float (x : Binary64)
  | string (s : LooseText)
  | array (items : List Json)
  | object (members : List (LooseText × Json))

namespace Json

instance : Inhabited Json := ⟨.null⟩

/-- The value under a name. Of several the last counts. -/
def member? (name : String) (members : List (LooseText × Json)) : Option Json :=
  (members.reverse.find? (·.1 = .whole name)).map (·.2)

def kindName : Json → String
  | .null => "NoneType"
  | .bool _ => "bool"
  | .int _ => "int"
  | .float _ => "float"
  | .string _ => "str"
  | .array _ => "list"
  | .object _ => "dict"

mutual

/-- Whether every text, as a value and as a name, has only characters. -/
def isWhole : Json → Bool
  | .string s => s.isWhole
  | .array items => allWhole items
  | .object members => membersWhole members
  | _ => true
termination_by structural j => j

def allWhole : List Json → Bool
  | [] => true
  | j :: rest => j.isWhole && allWhole rest
termination_by structural items => items

def membersWhole : List (LooseText × Json) → Bool
  | [] => true
  | m :: rest => memberWhole m && membersWhole rest
termination_by structural members => members

def memberWhole : LooseText × Json → Bool
  | (name, j) => name.isWhole && j.isWhole
termination_by structural m => m

end

end Json

end TurtleGraphics
