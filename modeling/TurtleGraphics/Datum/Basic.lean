import TurtleGraphics.Number
import TurtleGraphics.Text.LooseText
import TurtleGraphics.Vocabulary

/-! Values of no fixed type: what callers hand to the validators, and what settings may be set to. -/

namespace TurtleGraphics

inductive Datum where
  | null
  | bool (b : Bool)
  | number (x : Number)
  | text (s : String)
  /-- A text with at least one surrogate that has no other half. -/
  | brokenText (points : List CodePoint)
  | bytes (b : List UInt8)
  | list (items : List Datum)
  | tuple (items : List Datum)
  | dict (entries : List (Datum × Datum))
  | point (x y : Datum)
  | pen (p : Pen)
  | verb (v : Verb)

namespace Datum

instance : Inhabited Datum := ⟨.null⟩

def int (n : Int) : Datum := .number (.int n)

def float (x : Binary64) : Datum := .number (.float x)

def ofLooseText : LooseText → Datum
  | .whole s => .text s
  | .broken points => .brokenText points

def ofPoint (p : Point) : Datum := .point (.number p.x) (.number p.y)

/-- A truth value is not a number. -/
def isNumber : Datum → Bool
  | .number _ => true
  | _ => false

/-- The characters of a datum that is a text: pen states and verbs are texts too. -/
def text? : Datum → Option String
  | .text s => some s
  | .pen p => some p.text
  | .verb v => some v.text
  | _ => none

def kindName : Datum → String
  | .null => "NoneType"
  | .bool _ => "bool"
  | .number (.int _) => "int"
  | .number (.float _) => "float"
  | .text _ | .brokenText _ => "str"
  | .bytes _ => "bytes"
  | .list _ => "list"
  | .tuple _ => "tuple"
  | .dict _ => "dict"
  | .point _ _ => "Point"
  | .pen _ => "PenState"
  | .verb _ => "CommandName"

/-- The number that a datum stands for in arithmetic, where truth values count as one and zero. -/
def number? : Datum → Option Number
  | .number x => some x
  | .bool b => some (.int (if b then 1 else 0))
  | _ => none

mutual

/-- Equality of data: texts by content, numbers and truth values by exact value, and what holds other data by its
parts. A not-a-number equals nothing. -/
def same : Datum → Datum → Bool
  | .null, .null => true
  | .bytes a, .bytes b => a = b
  | .brokenText a, .brokenText b => a = b
  | .list a, .list b => sameAll a b
  | .tuple a, .tuple b => sameAll a b
  | .dict a, .dict b => a.length = b.length && sameEntries a b
  | .point x y, .point u v => x.same u && y.same v
  | a, b =>
    match a.text?, b.text? with
    | some s, some t => s = t
    | none, none =>
      match a.number?, b.number? with
      | some x, some y => x.equals y
      | _, _ => false
    | _, _ => false
termination_by structural a => a

def sameAll : List Datum → List Datum → Bool
  | [], [] => true
  | a :: rest, b :: more => a.same b && sameAll rest more
  | _, _ => false
termination_by structural a => a

def sameEntries : List (Datum × Datum) → List (Datum × Datum) → Bool
  | [], _ => true
  | e :: rest, others => isAmong e others && sameEntries rest others
termination_by structural a => a

def isAmong : Datum × Datum → List (Datum × Datum) → Bool
  | (k, v), others => others.any fun e => k.same e.1 && v.same e.2
termination_by structural a => a

end

/-- Sets a key: a key that is there keeps its place and gets the new value. -/
def putEntry (key value : Datum) : List (Datum × Datum) → List (Datum × Datum)
  | [] => [(key, value)]
  | (k, v) :: rest => if k.same key then (k, value) :: rest else (k, v) :: putEntry key value rest

def dictionary (assignments : List (Datum × Datum)) : Datum :=
  .dict (assignments.foldl (fun entries a => putEntry a.1 a.2 entries) [])

def lookup? (key : String) (entries : List (Datum × Datum)) : Option Datum :=
  (entries.find? fun e => e.1.text? = some key).map (·.2)

mutual

def holdsPoint : Datum → Bool
  | .point _ _ => true
  | .tuple items => anyPoint items
  | _ => false
termination_by structural d => d

def anyPoint : List Datum → Bool
  | [] => false
  | d :: rest => d.holdsPoint || anyPoint rest
termination_by structural items => items

end

mutual

def isWritable : Datum → Bool
  | .number x => x.isWritable
  | .list items => allWritable items
  | .tuple items => allWritable items
  | .dict entries => entriesWritable entries
  | .point x y => x.isWritable && y.isWritable
  | _ => true
termination_by structural d => d

def allWritable : List Datum → Bool
  | [] => true
  | d :: rest => d.isWritable && allWritable rest
termination_by structural items => items

def entriesWritable : List (Datum × Datum) → Bool
  | [] => true
  | e :: rest => entryWritable e && entriesWritable rest
termination_by structural entries => entries

def entryWritable : Datum × Datum → Bool
  | (k, v) => k.isWritable && v.isWritable
termination_by structural e => e

end

end Datum

end TurtleGraphics
