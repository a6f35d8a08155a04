import TurtleGraphics.Turtle.Transition

/-! Commands as inert data, and the transitions that they stand for. -/

namespace TurtleGraphics

/-- A name with an optional value. Any datum may stand in both places; an unknown name does nothing. -/
structure Command where
  name : Datum
  value : Datum

namespace Command

/-- A command whose name, if it is a verb, becomes the verb's text. -/
def make (name value : Datum) : Command :=
  match name with
  | .verb v => ⟨.text v.text, value⟩
  | _ => ⟨name, value⟩

def verb? (c : Command) : Option Verb := c.name.text?.bind Verb.ofText?

def isKnown (c : Command) : Bool := c.verb?.isSome

/-- A missing value stands for zero. -/
def amount (c : Command) : Datum :=
  match c.value with
  | .null => .int 0
  | value => value

/-- The transition of a command. An unknown name is the identity. -/
def transition [Platform] (c : Command) : Except Fault Transition :=
  match c.verb? with
  | some .move => Transition.move c.amount
  | some .turn => Transition.turn c.amount
  | some .penUp => .ok (Transition.setPen .up)
  | some .penDown => .ok (Transition.setPen .down)
  | none => .ok Transition.identity

/-- Runs a command: its transition is built when the turtle reaches it. -/
def execute [Platform] (c : Command) : Transition := fun t s =>
  match c.transition with
  | .ok f => f t s
  | .error fault => ⟨.error fault, s⟩

end Command

/-- What a command may be run on: a turtle, or any datum in the place of one. -/
inductive Subject where
  | turtle (t : Turtle)
  | datum (d : Datum)

namespace Command

/-- What a known command asks of a datum: its position, its heading, or another pen in it. -/
def refusal (d : Datum) : Verb → Fault
  | .move => .noMember d.kindName "position"
  | .turn => .noMember d.kindName "heading"
  | .penUp | .penDown => .noPen d

/-- What the transition of a command makes of a subject, and of the surface. -/
def apply [Platform] (c : Command) (subject : Subject) (s : Surface) : Except Fault Subject × Surface :=
  match c.transition, subject with
  | .error fault, _ => (.error fault, s)
  | .ok f, .turtle t => ((f t s).result.map Subject.turtle, (f t s).surface)
  | .ok _, .datum d => (c.verb?.elim (.ok (.datum d)) fun v => .error (refusal d v), s)

/-- Runs a command on a subject. What comes out has to be a turtle. -/
def executeOn [Platform] (c : Command) (subject : Subject) (s : Surface) : Outcome :=
  match c.apply subject s with
  | (.ok (.turtle t), s) => ⟨.ok t, s⟩
  | (.ok (.datum d), s) => ⟨.error (.notTurtle c.name d), s⟩
  | (.error fault, s) => ⟨.error fault, s⟩

theorem executeOn_turtle [Platform] (c : Command) (t : Turtle) (s : Surface) :
    c.executeOn (.turtle t) s = c.execute t s := by
  unfold executeOn apply execute
  cases c.transition with
  | error fault => rfl
  | ok f =>
    dsimp only
    cases hresult : (f t s).result with
    | error fault => exact congrArg (Outcome.mk · _) hresult.symm
    | ok t' => exact congrArg (Outcome.mk · _) hresult.symm

/-- No command makes a turtle of a datum. -/
theorem executeOn_datum [Platform] (c : Command) (d : Datum) (s : Surface) :
    ∃ fault, c.executeOn (.datum d) s = ⟨.error fault, s⟩ := by
  unfold executeOn apply
  cases c.transition with
  | error fault => exact ⟨fault, rfl⟩
  | ok f =>
    cases c.verb? with
    | none => exact ⟨_, rfl⟩
    | some v => exact ⟨_, rfl⟩

end Command

end TurtleGraphics
