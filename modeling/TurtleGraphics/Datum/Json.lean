import TurtleGraphics.Fault
import TurtleGraphics.Json.Writer

/-! The JSON form of a datum, if it has one. -/

namespace TurtleGraphics.Datum

/-- A number keeps its kind; an integer of too many digits has no form. -/
def numberJson : Number → Except Fault Json
  | .int n => if (Number.int n).isWritable then .ok (.int n) else .error .digitLimit
  | .float x => .ok (.float x)

/-- The name of a member: a text, or what the key is written as. -/
def nameJson (key : Datum) : Except Fault LooseText :=
  match key with
  | .number (.int n) =>
    if (Number.int n).isWritable then .ok (.whole (String.ofList (Number.intText n))) else .error .digitLimit
  | .number (.float x) => .ok (.whole (String.ofList (Json.renderNumber x)))
  | .bool b => .ok (.whole (if b then "true" else "false"))
  | .null => .ok (.whole "null")
  | .brokenText points => .ok (.broken points)
  | _ =>
    match key.text? with
    | some s => .ok (.whole s)
    | none => .error (.notName key)

mutual

/-- Lists and tuples become arrays, and pen states and verbs their texts. -/
def toJson : Datum → Except Fault Json
  | .null => .ok .null
  | .bool b => .ok (.bool b)
  | .number x => numberJson x
  | .text s => .ok (.string (.whole s))
  | .brokenText points => .ok (.string (.broken points))
  | .pen p => .ok (.string (.whole p.text))
  | .verb v => .ok (.string (.whole v.text))
  | .list items => (allToJson items).map Json.array
  | .tuple items => (allToJson items).map Json.array
  | .dict entries => (entriesToJson entries).map Json.object
  | .bytes b => .error (.notWritable (.bytes b))
  | .point x y => .error (.notWritable (.point x y))
termination_by structural d => d

def allToJson : List Datum → Except Fault (List Json)
  | [] => .ok []
  | d :: rest => do return (← d.toJson) :: (← allToJson rest)
termination_by structural items => items

def entriesToJson : List (Datum × Datum) → Except Fault (List (LooseText × Json))
  | [] => .ok []
  | e :: rest => do return (← entryToJson e) :: (← entriesToJson rest)
termination_by structural entries => entries

def entryToJson : Datum × Datum → Except Fault (LooseText × Json)
  | (k, v) => do return (← nameJson k, ← v.toJson)
termination_by structural e => e

end

mutual

/-- A datum with every point in it replaced by the dictionary of its coordinates. Such a dictionary cannot be a
key, nor can what holds one. -/
def expandPoints : Datum → Except Fault Datum
  | .list items => (expandAll items).map Datum.list
  | .tuple items => (expandAll items).map Datum.tuple
  | .dict entries => (expandEntries entries).map Datum.dict
  | .point x y => do return .dict [(.text "x", ← x.expandPoints), (.text "y", ← y.expandPoints)]
  | d => .ok d
termination_by structural d => d

def expandAll : List Datum → Except Fault (List Datum)
  | [] => .ok []
  | d :: rest => do return (← d.expandPoints) :: (← expandAll rest)
termination_by structural items => items

def expandEntries : List (Datum × Datum) → Except Fault (List (Datum × Datum))
  | [] => .ok []
  | e :: rest => do return (← expandEntry e) :: (← expandEntries rest)
termination_by structural entries => entries

def expandEntry : Datum × Datum → Except Fault (Datum × Datum)
  | (k, v) => do
    if holdsPoint k then throw .dictionaryKey
    return (k, ← v.expandPoints)
termination_by structural e => e

end

end TurtleGraphics.Datum
