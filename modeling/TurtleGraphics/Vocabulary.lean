/-! The closed vocabularies of turtle graphics: the two states of a pen and the verbs of commands. -/

namespace TurtleGraphics

inductive Pen where
  | up
  | down
deriving DecidableEq

namespace Pen

def text : Pen → String
  | .up => "up"
  | .down => "down"

def constant : Pen → String
  | .up => "UP"
  | .down => "DOWN"

def ofText? (s : String) : Option Pen :=
  if s = "up" then some .up else if s = "down" then some .down else none

theorem ofText?_text (p : Pen) : ofText? p.text = some p := by
  cases p <;> rfl

theorem ofText?_eq_some_iff {s : String} {p : Pen} : ofText? s = some p ↔ s = p.text := by
  constructor
  · intro h
    unfold ofText? at h
    split at h
    · cases h; assumption
    · split at h
      · cases h; assumption
      · cases h
  · rintro rfl; exact ofText?_text p

end Pen

/-- What a command can ask a turtle to do. -/
inductive Verb where
  | move
  | turn
  | penUp
  | penDown
deriving DecidableEq

namespace Verb

def text : Verb → String
  | .move => "MOVE"
  | .turn => "TURN"
  | .penUp => "PEN UP"
  | .penDown => "PEN DOWN"

def constant : Verb → String
  | .move => "MOVE"
  | .turn => "TURN"
  | .penUp => "PEN_UP"
  | .penDown => "PEN_DOWN"

def all : List Verb := [.move, .turn, .penUp, .penDown]

def ofText? (s : String) : Option Verb := all.find? (·.text = s)

theorem ofText?_text (v : Verb) : ofText? v.text = some v := by
  cases v <;> rfl

theorem ofText?_eq_some_iff {s : String} {v : Verb} : ofText? s = some v ↔ s = v.text := by
  constructor
  · intro h
    have := List.find?_some h
    simpa [eq_comm] using this
  · rintro rfl; exact ofText?_text v

end Verb

end TurtleGraphics
