import Mathlib.Tactic
import TurtleGraphics.Proofs.Surface.Calls
import TurtleGraphics.Proofs.Surface.Fault
import TurtleGraphics.Proofs.Turtle.Motion
import TurtleGraphics.Session

/-! What one step of a turtle can do. A step is a move, a refusal, or a change of heading or pen that leaves the
surface alone; a move that fails on recorders leaves them alone too. -/

namespace TurtleGraphics

namespace Motion

theorem isOrdinary_of_binary64 {x : Number} {fault : Fault} (h : binary64 x = .error fault) : fault.IsOrdinary := by
  unfold binary64 at h
  split at h
  · cases h
  · cases h; exact nofun

theorem isOrdinary_of_direction [Platform] {heading : Number} {fault : Fault} (h : direction heading = .error fault) :
    fault.IsOrdinary := by
  unfold direction at h
  rcases error_of_bind_error h with hr | ⟨angle, -, h⟩
  · exact isOrdinary_of_binary64 (error_of_map_error hr)
  · split at h
    · cases h; exact nofun
    · cases h

theorem isOrdinary_of_travel [Platform] {distance heading : Number} {start : Point} {fault : Fault}
    (h : travel distance heading start = .error fault) : fault.IsOrdinary := by
  unfold travel at h
  rcases error_of_bind_error h with hd | ⟨d, -, h⟩
  · exact isOrdinary_of_direction hd
  rcases error_of_bind_error h with hl | ⟨length, -, h⟩
  · exact isOrdinary_of_binary64 hl
  rcases error_of_bind_error h with hx | ⟨x, -, h⟩
  · exact isOrdinary_of_binary64 hx
  rcases error_of_bind_error h with hy | ⟨y, -, h⟩
  · exact isOrdinary_of_binary64 hy
  unfold arrive at h
  split at h
  · cases h
  · cases h; exact nofun

end Motion

namespace Validate

theorem isOrdinary_of_distance {value : Datum} {fault : Fault} (h : distance value = .error fault) :
    fault.IsOrdinary := by
  unfold distance at h
  split at h
  · rcases error_of_bind_error h with hf | ⟨b, -, h⟩
    · unfold finite at hf
      split at hf
      · cases hf
      · cases hf; exact nofun
    · cases b with
      | false => cases h; exact nofun
      | true => cases h
  · cases h; exact nofun

theorem isOrdinary_of_headingNumber {x : Number} {fault : Fault} (h : headingNumber x = .error fault) :
    fault.IsOrdinary := by
  unfold headingNumber at h
  split at h
  · cases h
  · cases h; exact nofun

end Validate

namespace Transition

/-- A transition that ends the same on every surface, and leaves it alone. -/
def quiet (g : Turtle → Except Fault Turtle) : Transition := fun t s => ⟨g t, s⟩

def turned (degrees : Number) (t : Turtle) : Except Fault Turtle :=
  match t.heading.add? degrees with
  | none => .error .integerTooLarge
  | some h => (Validate.headingNumber h).map fun h => { t with heading := h }

theorem turnBy_eq_quiet (degrees : Number) : turnBy degrees = quiet (turned degrees) := by
  funext t s
  unfold turnBy quiet turned
  cases t.heading.add? degrees with
  | none => rfl
  | some h => rfl

theorem turned_ok {degrees : Number} {t t' : Turtle} (h : turned degrees t = .ok t') :
    ∃ x, t.heading.add? degrees = some x ∧ Validate.inRange x = true ∧ t' = { t with heading := x } := by
  unfold turned at h
  split at h
  · cases h
  · next x hx =>
    obtain ⟨y, hy, rfl⟩ := ok_of_map_ok h
    unfold Validate.headingNumber at hy
    split at hy
    · cases hy; exact ⟨x, hx, ‹_›, rfl⟩
    · cases hy

theorem isOrdinary_of_turned {degrees : Number} {t : Turtle} {fault : Fault}
    (h : turned degrees t = .error fault) : fault.IsOrdinary := by
  unfold turned at h
  split at h
  · cases h; exact nofun
  · exact Validate.isOrdinary_of_headingNumber (error_of_map_error h)

/-- A move in full: the check of its end never fails, so only the way and the surface can refuse it. -/
theorem moveBy_eq [Platform] (distance : Number) (t : Turtle) (s : Surface) :
    moveBy distance t s =
      match Motion.travel distance t.heading t.position with
      | .error fault => ⟨.error fault, s⟩
      | .ok stop =>
        match s.calls (moveCalls t.pen t.position stop) with
        | (s, some fault) => ⟨.error fault, s⟩
        | (s, none) => ⟨.ok { t with position := stop }, s⟩ := by
  unfold moveBy
  cases hstop : Motion.travel distance t.heading t.position with
  | error fault => rfl
  | ok stop =>
    dsimp only
    rw [Motion.finitePoint_of_travel hstop]
    rfl

/-- A move that succeeded: where it led, and the calls that were made. -/
theorem moveBy_ok [Platform] {distance : Number} {t t' : Turtle} {s s' : Surface}
    (h : moveBy distance t s = ⟨.ok t', s'⟩) :
    ∃ stop, Motion.travel distance t.heading t.position = .ok stop ∧
      t' = { t with position := stop } ∧ s' = s.drawn (moveCalls t.pen t.position stop) := by
  rw [moveBy_eq] at h
  split at h
  · cases h
  · next stop hstop =>
    split at h
    · cases h
    · next s₁ hcalls =>
      cases h
      exact ⟨stop, hstop, rfl, Surface.drawn_of_calls hcalls⟩

theorem isOrdinary_of_moveBy [Platform] {distance : Number} {t : Turtle} {s : Surface} {fault : Fault}
    (h : (moveBy distance t s).result = .error fault) : fault.IsOrdinary := by
  rw [moveBy_eq] at h
  split at h
  · cases h; exact Motion.isOrdinary_of_travel ‹_›
  · split at h
    · cases h; exact (Surface.isForeign_of_calls ‹_›).isOrdinary
    · cases h

/-- On recorders a move fails only before its first call. -/
theorem surface_of_moveBy_error [Platform] {distance : Number} {t : Turtle} {s : Surface} {fault : Fault}
    (hs : s.onlyRecorders = true) (h : (moveBy distance t s).result = .error fault) :
    (moveBy distance t s).surface = s := by
  rw [moveBy_eq] at h ⊢
  split at h
  · rfl
  · rw [Surface.calls_of_onlyRecorders hs] at h
    cases h

/-- On recorders a move succeeds as soon as its end is known. -/
theorem moveBy_of_travel [Platform] {distance : Number} {t : Turtle} {s : Surface} {stop : Point}
    (hs : s.onlyRecorders = true)
    (h : Motion.travel distance t.heading t.position = .ok stop) :
    moveBy distance t s = ⟨.ok { t with position := stop }, s.drawn (moveCalls t.pen t.position stop)⟩ := by
  rw [moveBy_eq, h]
  dsimp only
  rw [Surface.calls_of_onlyRecorders hs]

/-- The transitions of single steps, told apart by whether their success is a move. -/
inductive Atomic [Platform] : (moves : Bool) → Transition → Prop where
  | move (distance : Number) : Atomic true (moveBy distance)
  | refusal (moves : Bool) {fault : Fault} (ordinary : fault.IsOrdinary) : Atomic moves (fail fault)
  | still {g : Turtle → Except Fault Turtle}
      (place : ∀ {t t'}, g t = .ok t' → t'.position = t.position)
      (heading : ∀ {t t'}, g t = .ok t' → t'.heading = t.heading ∨ Validate.inRange t'.heading = true)
      (ordinary : ∀ {t fault}, g t = .error fault → fault.IsOrdinary) : Atomic false (quiet g)

theorem atomic_turnBy [Platform] (degrees : Number) : Atomic false (turnBy degrees) := by
  rw [turnBy_eq_quiet]
  refine .still ?_ ?_ isOrdinary_of_turned
  · intro t t' h
    obtain ⟨x, -, -, rfl⟩ := turned_ok h
    rfl
  · intro t t' h
    obtain ⟨x, -, hx, rfl⟩ := turned_ok h
    exact .inr hx

theorem atomic_setPen [Platform] (pen : Pen) : Atomic false (setPen pen) := by
  refine .still (g := fun t => .ok { t with pen := pen }) ?_ ?_ ?_
  · intro t t' h; cases h; rfl
  · intro t t' h; cases h; exact .inl rfl
  · intro t fault h; cases h

theorem atomic_identity [Platform] : Atomic false identity := by
  refine .still (g := fun t => .ok t) ?_ ?_ ?_
  · intro t t' h; cases h; rfl
  · intro t t' h; cases h; exact .inl rfl
  · intro t fault h; cases h

namespace Atomic

variable {moves : Bool} {f : Transition} {t t' : Turtle} {s s' : Surface} {fault : Fault}

theorem isOrdinary [Platform] (h : Atomic moves f) (hf : (f t s).result = .error fault) : fault.IsOrdinary := by
  cases h with
  | move d => exact isOrdinary_of_moveBy hf
  | refusal _ ordinary => cases hf; exact ordinary
  | still place heading ordinary => exact ordinary hf

/-- A step fails as it would on a recorder, or because the library that paints refuses. -/
theorem error_cases [Platform] (h : Atomic moves f) (hf : (f t s).result = .error fault) (r : Recorder) :
    (f t (.recorder r)).result = .error fault ∨ fault.IsForeign := by
  cases h with
  | move d =>
    rw [moveBy_eq] at hf ⊢
    split at hf
    · exact .inl hf
    · split at hf
      · cases hf; exact .inr (Surface.isForeign_of_calls ‹_›)
      · cases hf
  | refusal _ ordinary => exact .inl hf
  | still place heading ordinary => exact .inl hf

/-- On recorders a step that fails leaves the surface alone. -/
theorem surface_of_error [Platform] (h : Atomic moves f) (hs : s.onlyRecorders = true)
    (hf : (f t s).result = .error fault) : (f t s).surface = s := by
  cases h with
  | move d => exact surface_of_moveBy_error hs hf
  | refusal _ ordinary => rfl
  | still place heading ordinary => rfl

/-- A step that succeeded without being a move. -/
theorem of_still [Platform] (h : Atomic false f) (hf : f t s = ⟨.ok t', s'⟩) :
    s' = s ∧ t'.position = t.position ∧ (t'.heading = t.heading ∨ Validate.inRange t'.heading = true) := by
  cases h with
  | refusal _ ordinary => cases hf
  | still place heading ordinary =>
    unfold quiet at hf
    obtain ⟨hg, rfl⟩ := Outcome.mk.inj hf
    exact ⟨rfl, place hg, heading hg⟩

/-- A step that succeeded as a move. -/
theorem of_move [Platform] (h : Atomic true f) (hf : f t s = ⟨.ok t', s'⟩) :
    ∃ stop, stop.IsExact ∧ t' = { t with position := stop } ∧
      s' = s.drawn (moveCalls t.pen t.position stop) := by
  cases h with
  | move d =>
    obtain ⟨stop, hstop, ht, hs⟩ := moveBy_ok hf
    exact ⟨stop, Motion.isExact_of_travel hstop, ht, hs⟩
  | refusal _ ordinary => cases hf

end Atomic

end Transition

namespace Plan

theorem perform_of_ok [Platform] {p : Plan} {f : Transition} (h : p.build = .ok f) : p.perform = f := by
  funext t s
  simp only [perform, h]

theorem perform_of_error [Platform] {p : Plan} {fault : Fault} (h : p.build = .error fault) :
    p.perform = Transition.fail fault := by
  funext t s
  simp only [perform, h, Transition.fail]

theorem atomic_move [Platform] (distance : Datum) : Transition.Atomic true (Plan.move distance).perform := by
  cases h : Validate.distance distance with
  | ok d =>
    have hbuild : (Plan.move distance).build = .ok (Transition.moveBy d) := by
      simp only [build, Transition.move, h, Except.map]
    rw [perform_of_ok hbuild]
    exact .move d
  | error fault =>
    have hbuild : (Plan.move distance).build = .error fault := by
      simp only [build, Transition.move, h, Except.map]
    rw [perform_of_error hbuild]
    exact .refusal true (Validate.isOrdinary_of_distance h)

theorem perform_move [Platform] {distance : Datum} {d : Number} {t : Turtle} {s : Surface} {stop : Point}
    (hd : Validate.distance distance = .ok d) (hs : s.onlyRecorders = true)
    (h : Motion.travel d t.heading t.position = .ok stop) :
    (Plan.move distance).perform t s =
      ⟨.ok { t with position := stop }, s.drawn (Transition.moveCalls t.pen t.position stop)⟩ := by
  have hbuild : (Plan.move distance).build = .ok (Transition.moveBy d) := by
    simp only [build, Transition.move, hd, Except.map]
  rw [perform_of_ok hbuild]
  exact Transition.moveBy_of_travel hs h

theorem atomic_turn [Platform] (degrees : Datum) : Transition.Atomic false (Plan.turn degrees).perform := by
  cases h : Transition.turn degrees with
  | ok f =>
    have hbuild : (Plan.turn degrees).build = .ok f := h
    rw [perform_of_ok hbuild]
    unfold Transition.turn at h
    split at h
    · cases h; exact Transition.atomic_turnBy _
    · cases h
  | error fault =>
    have hbuild : (Plan.turn degrees).build = .error fault := h
    rw [perform_of_error hbuild]
    unfold Transition.turn at h
    split at h
    · cases h
    · cases h; exact .refusal false nofun

def ofCommand (c : Command) : Plan :=
  match c.verb? with
  | some .move => .move c.amount
  | some .turn => .turn c.amount
  | some .penUp => .setPen .up
  | some .penDown => .setPen .down
  | none => .identity

theorem build_ofCommand [Platform] (c : Command) : (ofCommand c).build = c.transition := by
  unfold ofCommand Command.transition
  cases c.verb? with
  | none => rfl
  | some v => cases v <;> rfl

theorem execute_eq_perform [Platform] (c : Command) : c.execute = (ofCommand c).perform := by
  funext t s
  cases h : c.transition with
  | ok f => simp only [Command.execute, perform, build_ofCommand, h]
  | error fault => simp only [Command.execute, perform, build_ofCommand, h]

end Plan

namespace Command

def isMove (c : Command) : Bool := c.verb? = some .move

theorem atomic_execute [Platform] (c : Command) : Transition.Atomic c.isMove c.execute := by
  rw [Plan.execute_eq_perform]
  unfold Plan.ofCommand isMove
  cases c.verb? with
  | none => exact Transition.atomic_identity
  | some v =>
    cases v with
    | move => exact Plan.atomic_move c.amount
    | turn => exact Plan.atomic_turn c.amount
    | penUp => exact Transition.atomic_setPen .up
    | penDown => exact Transition.atomic_setPen .down

end Command

end TurtleGraphics
