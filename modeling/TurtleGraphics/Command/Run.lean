import TurtleGraphics.Command.Basic

/-! Running lists of commands. -/

namespace TurtleGraphics.Command

def run [Platform] : List Command → Transition
  | [] => Transition.identity
  | c :: rest => fun t s => (c.execute t s).andThen (run rest)

/-- The number of leading commands that succeed. -/
def completed [Platform] : List Command → Turtle → Surface → Nat
  | [], _, _ => 0
  | c :: rest, t, s =>
    match c.execute t s with
    | ⟨.ok t, s⟩ => completed rest t s + 1
    | ⟨.error _, _⟩ => 0

/-- The transitions of all commands, built before any of them runs. -/
def transitions [Platform] (commands : List Command) : Except Fault (List Transition) := commands.mapM transition

end TurtleGraphics.Command
