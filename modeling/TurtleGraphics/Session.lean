import TurtleGraphics.Command.Run

/-! Sessions: turtles of one surface, each step starting from any turtle reached so far. -/

namespace TurtleGraphics

/-- A transition as data, not yet built. -/
inductive Plan where
  | move (distance : Datum)
  | turn (degrees : Datum)
  | setPen (pen : Pen)
  | identity
  | execute (c : Command)
  | run (commands : List Command)
  | pipe (stages : List Plan)
  | repeated (times : Nat) (stage : Plan)

namespace Plan

mutual

/-- Builds the transition, and all stages of a composition before any of them runs. -/
def build [Platform] : Plan → Except Fault Transition
  | .move distance => Transition.move distance
  | .turn degrees => Transition.turn degrees
  | .setPen pen => .ok (Transition.setPen pen)
  | .identity => .ok Transition.identity
  | .execute c => .ok c.execute
  | .run commands => .ok (Command.run commands)
  | .pipe stages => (buildAll stages).map Transition.sequence
  | .repeated times stage => stage.build.map (Transition.repeated times)
termination_by structural p => p

def buildAll [Platform] : List Plan → Except Fault (List Transition)
  | [] => .ok []
  | p :: rest => do return (← p.build) :: (← buildAll rest)
termination_by structural stages => stages

end

def perform [Platform] (p : Plan) : Transition := fun t s =>
  match p.build with
  | .ok f => f t s
  | .error fault => ⟨.error fault, s⟩

end Plan

/-- One step: a plan on an earlier turtle, by its place in the history, or on the last one; or a call that
goes to the surface directly. -/
inductive Step where
  | act (source : Option Nat) (plan : Plan)
  | draw (c : SurfaceCall)

/-- The turtles reached so far, the last one first, and their surface. -/
structure Session where
  last : Turtle
  earlier : List Turtle
  surface : Surface

namespace Session

def start (t : Turtle) (s : Surface) : Session := ⟨t, [], s⟩

/-- The turtles in the order in which they were reached. -/
def history (session : Session) : List Turtle := (session.last :: session.earlier).reverse

def turtleAt (session : Session) : Option Nat → Turtle
  | none => session.last
  | some n => session.history.getD n session.last

def reach (session : Session) (t : Turtle) (s : Surface) : Session :=
  ⟨t, session.last :: session.earlier, s⟩

/-- A failed step repeats the last turtle; what it did to the surface stays. -/
def step [Platform] (session : Session) : Step → Session × Option Fault
  | .act source plan =>
    let o := plan.perform (session.turtleAt source) session.surface
    match o.result with
    | .ok t => (session.reach t o.surface, none)
    | .error fault => (session.reach session.last o.surface, some fault)
  | .draw c =>
    let r := session.surface.call c
    (session.reach session.last r.1, r.2)

/-- The sessions after each step, with the fault of the step. -/
def steps [Platform] (session : Session) : List Step → List (Session × Option Fault)
  | [] => []
  | s :: rest =>
    let after := session.step s
    after :: after.1.steps rest

end Session

end TurtleGraphics
