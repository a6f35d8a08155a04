import TurtleGraphics.Datum.Json

/-! A datum written out as JSON text part by part, up to the first part that has no JSON form. -/

namespace TurtleGraphics

/-- The text that was written, and the fault that stopped the writing. -/
structure Written where
  text : List Char
  fault : Option Fault

namespace Written

def done (text : List Char) : Written := ⟨text, none⟩

def stopped (fault : Fault) : Written := ⟨[], some fault⟩

/-- Writes on, unless the writing was stopped. -/
def andThen (w next : Written) : Written :=
  match w.fault with
  | none => ⟨w.text ++ next.text, next.fault⟩
  | some _ => w

def andText (w : Written) (text : List Char) : Written := w.andThen (done text)

end Written

namespace Datum

/-- A number goes out in one part with what leads up to it. -/
def streamNumber (lead : List Char) (x : Number) : Written :=
  match numberJson x with
  | .ok _ => .done (lead ++ match x with
    | .int n => Number.intText n
    | .float x => Json.renderNumber x)
  | .error fault => .stopped fault

/-- The name of a member. One that cannot be written stops the writing before the lead. -/
def streamName (lead : List Char) (key : Datum) : Written :=
  match nameJson key with
  | .ok name => .done (lead ++ Json.renderLoose name ++ [':', ' '])
  | .error fault => .stopped fault

mutual

/-- Writes a datum behind a text that leads up to it. -/
def stream (layout : Json.Layout) (level : Nat) (lead : List Char) : Datum → Written
  | .null => .done (lead ++ "null".toList)
  | .bool b => .done (lead ++ (if b then "true" else "false").toList)
  | .number x => streamNumber lead x
  | .text s => .done (lead ++ Json.renderText s.toList)
  | .brokenText points => .done (lead ++ Json.renderLoose (.broken points))
  | .pen p => .done (lead ++ Json.renderText p.text.toList)
  | .verb v => .done (lead ++ Json.renderText v.text.toList)
  | .list items => streamArray layout level lead items
  | .tuple items => streamArray layout level lead items
  | .dict entries => streamObject layout level lead entries
  | .bytes b => ⟨lead, some (.notWritable (.bytes b))⟩
  | .point x y => ⟨lead, some (.notWritable (.point x y))⟩
termination_by structural d => d

def streamArray (layout : Json.Layout) (level : Nat) (lead : List Char) : List Datum → Written
  | [] => .done (lead ++ ['[', ']'])
  | d :: rest =>
    (Written.done lead).andThen
      (((stream layout (level + 1) ('[' :: layout.lineBreak (level + 1)) d).andThen
        (streamItems layout (level + 1) rest)).andText (layout.lineBreak level ++ [']']))
termination_by structural items => items

def streamItems (layout : Json.Layout) (level : Nat) : List Datum → Written
  | [] => .done []
  | d :: rest => (stream layout level (layout.separator level) d).andThen (streamItems layout level rest)
termination_by structural items => items

def streamObject (layout : Json.Layout) (level : Nat) (lead : List Char) : List (Datum × Datum) → Written
  | [] => .done (lead ++ ['\x7b', '\x7d'])
  | e :: rest =>
    (Written.done (lead ++ '\x7b' :: layout.lineBreak (level + 1))).andThen
      (((streamEntry layout (level + 1) [] e).andThen (streamEntries layout (level + 1) rest)).andText
        (layout.lineBreak level ++ ['\x7d']))
termination_by structural entries => entries

def streamEntries (layout : Json.Layout) (level : Nat) : List (Datum × Datum) → Written
  | [] => .done []
  | e :: rest =>
    (streamEntry layout level (layout.separator level) e).andThen (streamEntries layout level rest)
termination_by structural entries => entries

def streamEntry (layout : Json.Layout) (level : Nat) (lead : List Char) : Datum × Datum → Written
  | (k, v) => (streamName lead k).andThen (stream layout level [] v)
termination_by structural e => e

end

end Datum

end TurtleGraphics
