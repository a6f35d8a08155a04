import TurtleGraphics.Datum.Basic
import TurtleGraphics.Text.Quoted

/-! The written form of a datum, as messages show it. -/

namespace TurtleGraphics.Datum

def commaJoin (items : List (List Char)) : List Char := List.intercalate [',', ' '] items

/-- A tuple of one item keeps a comma. -/
def displayTuple : List (List Char) → List Char
  | [item] => '(' :: item ++ [',', ')']
  | items => '(' :: commaJoin items ++ [')']

/-- A member of a closed vocabulary, with its constant and its text. -/
def displayMember (kind constant text : String) : List Char :=
  '<' :: (kind ++ "." ++ constant ++ ": ").toList ++ Text.quoted text.toList ++ ['>']

mutual

def display : Datum → List Char
  | .null => "None".toList
  | .bool b => (if b then "True" else "False").toList
  | .number x => x.text
  | .text s => Text.quoted s.toList
  | .brokenText points => CodePoint.quotedAll points
  | .bytes b => Text.quotedBytes b
  | .list items => '[' :: commaJoin (displayAll items) ++ [']']
  | .tuple items => displayTuple (displayAll items)
  | .dict entries => '\x7b' :: commaJoin (displayEntries entries) ++ ['\x7d']
  | .point x y => "Point(x=".toList ++ x.display ++ ", y=".toList ++ y.display ++ [')']
  | .pen p => displayMember "PenState" p.constant p.text
  | .verb v => displayMember "CommandName" v.constant v.text
termination_by structural d => d

def displayAll : List Datum → List (List Char)
  | [] => []
  | d :: rest => d.display :: displayAll rest
termination_by structural items => items

def displayEntries : List (Datum × Datum) → List (List Char)
  | [] => []
  | e :: rest => displayEntry e :: displayEntries rest
termination_by structural entries => entries

def displayEntry : Datum × Datum → List Char
  | (k, v) => k.display ++ ':' :: ' ' :: v.display
termination_by structural e => e

end

def displayText (d : Datum) : String := String.ofList d.display

end TurtleGraphics.Datum
