import Mathlib.Tactic
import TurtleGraphics.Proofs.Command.Composition
import TurtleGraphics.Proofs.Surface.Lines
import TurtleGraphics.Standard

/-! Trajectories. Where a turtle goes, and where it is stopped, does not depend on its pen: lists of commands that
differ in pen commands alone take turtles with any pens the same way, drawn or not. -/

namespace TurtleGraphics

structure Turtle.Abreast (t u : Turtle) : Prop where
  position : u.position = t.position
  heading : u.heading = t.heading

namespace Turtle.Abreast

variable {t u v : Turtle}

theorem symm (h : t.Abreast u) : u.Abreast t := ⟨h.position.symm, h.heading.symm⟩

theorem trans (h : t.Abreast u) (h' : u.Abreast v) : t.Abreast v :=
  ⟨h'.position.trans h.position, h'.heading.trans h.heading⟩

end Turtle.Abreast

/-- What a step leaves of two turtles, each on a recorder of its own: two turtles abreast behind equally many moves of
the cursors, or one fault for both and the recorders as they were. -/
inductive Outcome.Abreast (r r' : Recorder) : Outcome → Outcome → Prop where
  | ok {t u : Turtle} {q q' : Recorder} (moves : Nat) :
      t.Abreast u → q.moves = r.moves + moves → q'.moves = r'.moves + moves →
      Abreast r r' ⟨.ok t, .recorder q⟩ ⟨.ok u, .recorder q'⟩
  | error (fault : Fault) : Abreast r r' ⟨.error fault, .recorder r⟩ ⟨.error fault, .recorder r'⟩

namespace Recorder

theorem moves_stroke (r : Recorder) : r.stroke.moves = r.moves := by
  unfold stroke
  split <;> rfl

/-- A move counts once, drawn or not. -/
theorem drawn_moveCalls (r : Recorder) (pen : Pen) (start stop : Point) :
    ∃ q, (Surface.recorder r).drawn (Transition.moveCalls pen start stop) = .recorder q ∧ q.moves = r.moves + 1 := by
  refine ⟨_, drawn_recorder r _, ?_⟩
  cases pen with
  | up => rfl
  | down => exact moves_stroke ((r.moveTo (.ofPoint start)).lineTo (.ofPoint stop))

end Recorder

namespace Transition

/-- A transition that takes turtles abreast to turtles abreast, or refuses both. -/
def PenBlind (f : Transition) : Prop :=
  ∀ {t u : Turtle} (r r' : Recorder), t.Abreast u → Outcome.Abreast r r' (f t (.recorder r)) (f u (.recorder r'))

theorem penBlind_identity : PenBlind identity := by
  intro t u r r' h
  exact .ok 0 h rfl rfl

theorem penBlind_fail (fault : Fault) : PenBlind (fail fault) := by
  intro t u r r' _
  exact .error fault

theorem penBlind_setPen (pen : Pen) : PenBlind (setPen pen) := by
  intro t u r r' h
  exact .ok 0 ⟨h.position, h.heading⟩ rfl rfl

theorem penBlind_turnBy (degrees : Number) : PenBlind (turnBy degrees) := by
  intro t u r r' h
  rw [turnBy_eq_quiet]
  simp only [quiet, turned, h.heading]
  cases t.heading.add? degrees with
  | none => exact .error _
  | some x =>
    dsimp only
    cases Validate.headingNumber x with
    | error fault => exact .error fault
    | ok y => exact .ok 0 ⟨h.position, rfl⟩ rfl rfl

theorem penBlind_moveBy [Platform] (distance : Number) : PenBlind (moveBy distance) := by
  intro t u r r' h
  cases hstop : Motion.travel distance t.heading t.position with
  | error fault =>
    simp only [moveBy_eq, h.heading, h.position, hstop]
    exact .error fault
  | ok stop =>
    have hstop' : Motion.travel distance u.heading u.position = .ok stop := by rw [h.heading, h.position, hstop]
    obtain ⟨q, hq, hmoves⟩ := r.drawn_moveCalls t.pen t.position stop
    obtain ⟨q', hq', hmoves'⟩ := r'.drawn_moveCalls u.pen u.position stop
    rw [moveBy_of_travel rfl hstop, moveBy_of_travel rfl hstop', hq, hq']
    exact .ok 1 ⟨rfl, h.heading⟩ hmoves hmoves'

end Transition

namespace Command

def isPen (c : Command) : Bool := c.verb? = some .penUp || c.verb? = some .penDown

/-- A pen command keeps the turtle where it is, and leaves the surface alone. -/
theorem execute_of_isPen [Platform] {c : Command} (h : c.isPen = true) (t : Turtle) (s : Surface) :
    ∃ t₁, c.execute t s = ⟨.ok t₁, s⟩ ∧ t.Abreast t₁ := by
  simp only [isPen, Bool.or_eq_true, decide_eq_true_eq] at h
  rcases h with hup | hdown
  · refine ⟨{ t with pen := .up }, ?_, rfl, rfl⟩
    rw [execute_of_ok (f := Transition.setPen .up) (by simp only [transition, hup])]
    rfl
  · refine ⟨{ t with pen := .down }, ?_, rfl, rfl⟩
    rw [execute_of_ok (f := Transition.setPen .down) (by simp only [transition, hdown])]
    rfl

theorem penBlind_of_transition [Platform] {c : Command} {f : Transition} (h : c.transition = .ok f) : f.PenBlind := by
  unfold transition at h
  split at h
  · obtain ⟨distance, -, rfl⟩ := ok_of_map_ok h
    exact Transition.penBlind_moveBy distance
  · unfold Transition.turn at h
    split at h
    · cases h
      exact Transition.penBlind_turnBy _
    · cases h
  · cases h
    exact Transition.penBlind_setPen .up
  · cases h
    exact Transition.penBlind_setPen .down
  · cases h
    exact Transition.penBlind_identity

theorem penBlind_execute [Platform] (c : Command) : c.execute.PenBlind := by
  cases h : c.transition with
  | error fault =>
    rw [execute_of_error h]
    exact Transition.penBlind_fail fault
  | ok f =>
    rw [execute_of_ok h]
    exact penBlind_of_transition h

/-- The second list is the first one with pen commands put in, left out and exchanged at any places. -/
inductive PenEdits : List Command → List Command → Prop where
  | nil : PenEdits [] []
  | keep (c : Command) {commands edited : List Command} :
      PenEdits commands edited → PenEdits (c :: commands) (c :: edited)
  | insert {pen : Command} {commands edited : List Command} :
      pen.isPen = true → PenEdits commands edited → PenEdits commands (pen :: edited)
  | delete {pen : Command} {commands edited : List Command} :
      pen.isPen = true → PenEdits commands edited → PenEdits (pen :: commands) edited
  | exchange {pen other : Command} {commands edited : List Command} :
      pen.isPen = true → other.isPen = true → PenEdits commands edited → PenEdits (pen :: commands) (other :: edited)

/-- Two runs end abreast. When they are stopped, then by one command, which is no pen command, with one fault, and the
commands before it are edits of each other. -/
inductive RunAbreast [Platform] (commands edited : List Command) (t u : Turtle) (r r' : Recorder) : Prop where
  | finished {t₁ u₁ : Turtle} {q q' : Recorder} (moves : Nat)
      (first : run commands t (.recorder r) = ⟨.ok t₁, .recorder q⟩)
      (second : run edited u (.recorder r') = ⟨.ok u₁, .recorder q'⟩)
      (abreast : t₁.Abreast u₁) (counted : q.moves = r.moves + moves) (counted' : q'.moves = r'.moves + moves)
  | stopped {fault : Fault} {c : Command} {k k' : Nat}
      (first : StopsAt commands t (.recorder r) fault k) (second : StopsAt edited u (.recorder r') fault k')
      (command : commands[k]? = some c) (command' : edited[k']? = some c) (steers : c.isPen = false)
      (before : PenEdits (commands.take k) (edited.take k'))

namespace RunAbreast

variable {commands edited : List Command} {t u t₁ u₁ : Turtle} {r r' q q' : Recorder} {c pen : Command}

theorem run_cons_ok [Platform] {s s₁ : Surface} (hc : c.execute t s = ⟨.ok t₁, s₁⟩) :
    run (c :: commands) t s = run commands t₁ s₁ := by
  rw [run_cons, Outcome.andThen_ok hc]

theorem keep [Platform] {moves : Nat} (hc : c.execute t (.recorder r) = ⟨.ok t₁, .recorder q⟩)
    (hc' : c.execute u (.recorder r') = ⟨.ok u₁, .recorder q'⟩) (hmoves : q.moves = r.moves + moves)
    (hmoves' : q'.moves = r'.moves + moves) (h : RunAbreast commands edited t₁ u₁ q q') :
    RunAbreast (c :: commands) (c :: edited) t u r r' := by
  cases h with
  | finished more first second abreast counted counted' =>
    exact .finished (moves + more) ((run_cons_ok hc).trans first) ((run_cons_ok hc').trans second) abreast
      (by omega) (by omega)
  | stopped first second command command' steers before =>
    exact .stopped (first.cons hc) (second.cons hc') command command' steers (.keep c before)

theorem insert [Platform] (hpen : pen.isPen = true) (hc : pen.execute u (.recorder r') = ⟨.ok u₁, .recorder r'⟩)
    (h : RunAbreast commands edited t u₁ r r') : RunAbreast commands (pen :: edited) t u r r' := by
  cases h with
  | finished moves first second abreast counted counted' =>
    exact .finished moves first ((run_cons_ok hc).trans second) abreast counted counted'
  | stopped first second command command' steers before =>
    exact .stopped first (second.cons hc) command command' steers (.insert hpen before)

theorem delete [Platform] (hpen : pen.isPen = true) (hc : pen.execute t (.recorder r) = ⟨.ok t₁, .recorder r⟩)
    (h : RunAbreast commands edited t₁ u r r') : RunAbreast (pen :: commands) edited t u r r' := by
  cases h with
  | finished moves first second abreast counted counted' =>
    exact .finished moves ((run_cons_ok hc).trans first) second abreast counted counted'
  | stopped first second command command' steers before =>
    exact .stopped (first.cons hc) second command command' steers (.delete hpen before)

end RunAbreast

theorem isPen_of_error [Platform] {c : Command} {t : Turtle} {s s' : Surface} {fault : Fault}
    (h : c.execute t s = ⟨.error fault, s'⟩) : c.isPen = false := by
  cases hpen : c.isPen with
  | false => rfl
  | true =>
    obtain ⟨t₁, hpen, -⟩ := execute_of_isPen hpen t s
    rw [hpen] at h
    cases h

/-- Two turtles abreast, each on a recorder of its own, stay abreast whatever pen commands one of them gets and the
other does not: both runs end at one place with one heading behind equally many moves of the cursors, or one command
that is no pen command stops both with one fault. -/
theorem run_ignores_pens [Platform] {commands edited : List Command} (hedits : PenEdits commands edited) {t u : Turtle}
    (habreast : t.Abreast u) (r r' : Recorder) : RunAbreast commands edited t u r r' := by
  induction hedits generalizing t u r r' with
  | nil => exact .finished 0 rfl rfl habreast rfl rfl
  | @keep c commands edited _ ih =>
    have hstep := c.penBlind_execute r r' habreast
    generalize hfirst : c.execute t (.recorder r) = o at hstep
    generalize hsecond : c.execute u (.recorder r') = o' at hstep
    cases hstep with
    | ok moves h hmoves hmoves' => exact .keep hfirst hsecond hmoves hmoves' (ih h _ _)
    | error fault =>
      exact .stopped (.head hfirst) (.head hsecond) rfl rfl (isPen_of_error hfirst) .nil
  | insert hpen _ ih =>
    obtain ⟨u₁, hu, h⟩ := execute_of_isPen hpen u (.recorder r')
    exact .insert hpen hu (ih (habreast.trans h) r r')
  | delete hpen _ ih =>
    obtain ⟨t₁, ht, h⟩ := execute_of_isPen hpen t (.recorder r)
    exact .delete hpen ht (ih (h.symm.trans habreast) r r')
  | exchange hpen hother _ ih =>
    obtain ⟨t₁, ht, h⟩ := execute_of_isPen hpen t (.recorder r)
    obtain ⟨u₁, hu, h'⟩ := execute_of_isPen hother u (.recorder r')
    exact .delete hpen ht (.insert hother hu (ih ((h.symm.trans habreast).trans h') r r'))

def overturningRedrawn : List Command :=
  [⟨.text "MOVE", .int 10⟩, ⟨.verb .penUp, .null⟩, ⟨.text "TURN", .int 300⟩, ⟨.text "PEN UP", .int 7⟩,
    ⟨.text "TURN", .int 300⟩, ⟨.text "MOVE", .int 10⟩, ⟨.text "PEN DOWN", .null⟩]

open Standard

theorem overturning_ignores_pens :
    PenEdits overturning overturningRedrawn ∧
    ∃ fault k k', StopsAt overturning ⟨⟨.int 0, .int 0⟩, .int 0, .up⟩ (.recorder .empty) fault k ∧
      StopsAt overturningRedrawn ⟨⟨.int 0, .int 0⟩, .int 0, .down⟩ (.recorder .empty) fault k' ∧
      PenEdits (overturning.take k) (overturningRedrawn.take k') := by
  have hedits : PenEdits overturning overturningRedrawn :=
    .delete rfl (.keep _ (.insert rfl (.keep _ (.insert rfl (.keep _ (.keep _ (.insert rfl .nil)))))))
  have habreast : Turtle.Abreast ⟨⟨.int 0, .int 0⟩, .int 0, .up⟩ ⟨⟨.int 0, .int 0⟩, .int 0, .down⟩ := ⟨rfl, rfl⟩
  have hnone : (run overturning ⟨⟨.int 0, .int 0⟩, .int 0, .up⟩ (.recorder .empty)).result.toOption = none := by
    decide +kernel
  refine ⟨hedits, ?_⟩
  cases run_ignores_pens hedits habreast .empty .empty with
  | finished moves first second abreast counted counted' =>
    rw [first] at hnone
    cases hnone
  | stopped first second command command' steers before => exact ⟨_, _, _, first, second, before⟩

end Command

end TurtleGraphics
