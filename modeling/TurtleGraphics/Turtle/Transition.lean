import TurtleGraphics.Turtle.Motion
import TurtleGraphics.Surface.Basic

/-! Transitions: what moves, turns and pen changes do to a turtle and to the surface that it draws on. -/

namespace TurtleGraphics

/-- What a transition leaves: a new turtle or a fault, and the surface in either case. -/
structure Outcome where
  result : Except Fault Turtle
  surface : Surface

abbrev Transition := Turtle → Surface → Outcome

namespace Outcome

/-- Goes on from the turtle that was reached, if one was. -/
def andThen (o : Outcome) (next : Transition) : Outcome :=
  match o.result with
  | .ok t => next t o.surface
  | .error fault => ⟨.error fault, o.surface⟩

end Outcome

namespace Transition

def identity : Transition := fun t s => ⟨.ok t, s⟩

def fail (fault : Fault) : Transition := fun _ s => ⟨.error fault, s⟩

/-- Transitions from left to right, up to the first fault. -/
def sequence : List Transition → Transition
  | [] => identity
  | f :: rest => fun t s => (f t s).andThen (sequence rest)

def repeated (times : Nat) (f : Transition) : Transition := sequence (List.replicate times f)

def setPen (pen : Pen) : Transition := fun t s => ⟨.ok { t with pen := pen }, s⟩

/-- Adds to the heading, which has to stay in range. -/
def turnBy (degrees : Number) : Transition := fun t s =>
  match t.heading.add? degrees with
  | none => ⟨.error .integerTooLarge, s⟩
  | some h => ⟨(Validate.headingNumber h).map fun h => { t with heading := h }, s⟩

/-- A drawn move is a stroke of its own; any other move only brings the cursor along. -/
def moveCalls (pen : Pen) (start stop : Point) : List SurfaceCall :=
  match pen with
  | .down => [.moveTo (.ofPoint start), .lineTo (.ofPoint stop), .stroke]
  | .up => [.moveTo (.ofPoint stop)]

/-- Travels along the heading. The surface is called only once the end of the move is known. -/
def moveBy [Platform] (distance : Number) : Transition := fun t s =>
  match Motion.travel distance t.heading t.position with
  | .error fault => ⟨.error fault, s⟩
  | .ok stop =>
    match s.calls (moveCalls t.pen t.position stop) with
    | (s, some fault) => ⟨.error fault, s⟩
    | (s, none) => ⟨(Validate.finitePoint stop).map fun p => { t with position := p }, s⟩

/-- A move by a datum, which is looked at when the transition is built. -/
def move [Platform] (distance : Datum) : Except Fault Transition := (Validate.distance distance).map moveBy

/-- A turn by a datum, which has to be a number when the transition is built. -/
def turn : Datum → Except Fault Transition
  | .number degrees => .ok (turnBy degrees)
  | _ => .error (.domain .headingNotNumber)

end Transition

end TurtleGraphics
