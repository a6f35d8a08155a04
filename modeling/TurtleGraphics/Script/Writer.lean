import TurtleGraphics.Datum.Json
import TurtleGraphics.Script.Basic
import TurtleGraphics.Text.Utf8

/-! Writing commands as a script. -/

namespace TurtleGraphics.Script

/-- The object of a command; a null value is left out. -/
def entry (c : Command) : Datum :=
  match c.value with
  | .null => .dict [(.text "name", c.name)]
  | value => .dict [(.text "name", c.name), (.text "value", value)]

def toJson (commands : List Command) : Except Fault Json := (Datum.list (commands.map entry)).toJson

/-- An indentation is a size, if there is one. -/
def isIndent (indent : Option Int) : Bool :=
  indent.all fun n => -9223372036854775808 ≤ n && n ≤ 9223372036854775807

/-- The text of a script, with an optional indentation, which is looked at first. -/
def write (indent : Option Int) (commands : List Command) : Except Fault String :=
  if isIndent indent then (toJson commands).map (Json.write (.ofIndent indent)) else .error .indentTooLarge

def fileIndent : Option Int := some 2

def reload [Validation] (text : String) : Except Fault (List Command) := load (Text.Utf8.encode text.toList)

end TurtleGraphics.Script
