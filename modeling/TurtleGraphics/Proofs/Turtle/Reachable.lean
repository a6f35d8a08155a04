import Mathlib.Tactic
import TurtleGraphics.Proofs.Turtle.Transition
import TurtleGraphics.Standard

/-! Turtles that can be reached. From validated data, plans of any shape lead to turtles with a heading in range and a
finite position, on integers that lose nothing as binary64 numbers once there was a move. -/

namespace TurtleGraphics

namespace Plan

mutual

/-- The number of moves in a plan. All of them succeed when the plan does. -/
def moveCount : Plan → Nat
  | .move _ => 1
  | .turn _ => 0
  | .setPen _ => 0
  | .identity => 0
  | .execute c => c.isMove.toNat
  | .run commands => commands.countP Command.isMove
  | .pipe stages => moveCountAll stages
  | .repeated times stage => times * stage.moveCount
termination_by structural p => p

def moveCountAll : List Plan → Nat
  | [] => 0
  | p :: rest => p.moveCount + moveCountAll rest
termination_by structural stages => stages

end

end Plan

/-- What plans reach from a turtle on its surface, with the number of moves that led there. Other turtles may draw on
the surface at any time. -/
inductive Reaches [Platform] (t₀ : Turtle) (s₀ : Surface) : Turtle → Surface → Nat → Prop where
  | start : Reaches t₀ s₀ t₀ s₀ 0
  | act {t t' : Turtle} {s s' : Surface} {moves : Nat} (plan : Plan) :
      Reaches t₀ s₀ t s moves → plan.perform t s = ⟨.ok t', s'⟩ → Reaches t₀ s₀ t' s' (moves + plan.moveCount)
  | draw {t : Turtle} {s : Surface} {moves : Nat} (c : SurfaceCall) :
      Reaches t₀ s₀ t s moves → Reaches t₀ s₀ t (s.call c).1 moves

namespace Turtle

/-- A heading of at most a full turn either way, counted in units, and a finite position. -/
structure Sound (t : Turtle) : Prop where
  heading : ∃ u : Int, t.heading.place? = some (.at u) ∧ -360 * unitsPerOne ≤ u ∧ u ≤ 360 * unitsPerOne
  position : t.position.IsFinite
  pen : t.pen = .up ∨ t.pen = .down

theorem pen_cases (t : Turtle) : t.pen = .up ∨ t.pen = .down := by
  cases t.pen with
  | up => exact .inl rfl
  | down => exact .inr rfl

end Turtle

namespace Validate

theorem place_of_inRange {x : Number} (h : inRange x = true) :
    ∃ u : Int, x.place? = some (.at u) ∧ -360 * unitsPerOne ≤ u ∧ u ≤ 360 * unitsPerOne := by
  unfold inRange at h
  rw [Bool.and_eq_true, Number.le_iff, Number.le_iff] at h
  obtain ⟨⟨low, p, hlow, hp, hle⟩, ⟨q, high, hq, hhigh, hge⟩⟩ := h
  cases hlow
  cases hhigh
  cases hp.symm.trans hq
  cases p with
  | below => cases hle
  | above => cases hge
  | «at» u => exact ⟨u, hp, of_decide_eq_true hle, of_decide_eq_true hge⟩

theorem inRange_of_heading {value : Datum} {x : Number} (h : heading value = .ok x) : inRange x = true := by
  unfold heading headingNumber at h
  split at h
  · split at h
    · cases h; assumption
    · cases h
  · cases h

theorem sound_of_turtle {position heading pen : Datum} {t : Turtle} (h : turtle position heading pen = .ok t) :
    t.Sound := by
  obtain ⟨p, hp, h⟩ := ok_of_bind_ok h
  obtain ⟨x, hx, h⟩ := ok_of_bind_ok h
  obtain ⟨q, -, h⟩ := ok_of_bind_ok h
  cases h
  exact ⟨place_of_inRange (inRange_of_heading hx), isFinite_of_point hp, Turtle.pen_cases _⟩

end Validate

namespace Turtle

/-- What a number of moves does to what is known of a turtle. -/
structure Advances (t t' : Turtle) (moves : Nat) : Prop where
  sound : t.Sound → t'.Sound
  exact_of_moved : 0 < moves → t'.position.IsExact
  exact_of_exact : t.position.IsExact → t'.position.IsExact

theorem Advances.refl (t : Turtle) : t.Advances t 0 := ⟨id, fun h => absurd h (Nat.lt_irrefl 0), id⟩

theorem Advances.trans {t t' t'' : Turtle} {m n : Nat} (h : t.Advances t' m) (h' : t'.Advances t'' n) :
    t.Advances t'' (m + n) := by
  refine ⟨h'.sound ∘ h.sound, ?_, h'.exact_of_exact ∘ h.exact_of_exact⟩
  intro hmn
  rcases Nat.eq_zero_or_pos n with rfl | hn
  · exact h'.exact_of_exact (h.exact_of_moved hmn)
  · exact h'.exact_of_moved hn

end Turtle

namespace Transition

/-- A transition that makes a number of moves when it succeeds, and only draws on the surface. -/
def Makes (f : Transition) (moves : Nat) : Prop :=
  ∀ ⦃t t' : Turtle⦄ ⦃s s' : Surface⦄, f t s = ⟨.ok t', s'⟩ → t.Advances t' moves ∧ ∃ cs, s' = s.drawn cs

theorem Atomic.makes [Platform] {moves : Bool} {f : Transition} (h : Atomic moves f) : f.Makes moves.toNat := by
  intro t t' s s' hf
  cases moves with
  | true =>
    obtain ⟨stop, hstop, rfl, rfl⟩ := h.of_move hf
    exact ⟨⟨fun ht => ⟨ht.heading, hstop.isFinite, ht.pen⟩, fun _ => hstop, fun _ => hstop⟩, _, rfl⟩
  | false =>
    obtain ⟨rfl, hplace, hheading⟩ := h.of_still hf
    refine ⟨⟨?_, fun hpos => absurd hpos (Nat.lt_irrefl 0), fun hexact => hplace ▸ hexact⟩, [], rfl⟩
    intro ht
    refine ⟨?_, hplace ▸ ht.position, Turtle.pen_cases t'⟩
    rcases hheading with hsame | hrange
    · exact hsame ▸ ht.heading
    · exact Validate.place_of_inRange hrange

theorem Makes.andThen {f g : Transition} {m n : Nat} (hf : f.Makes m) (hg : g.Makes n) :
    Makes (fun t s => (f t s).andThen g) (m + n) := by
  intro t t'' s s'' h
  dsimp only at h
  cases hfirst : f t s with
  | mk result s' =>
    rw [hfirst] at h
    cases result with
    | error fault => cases h
    | ok t' =>
      obtain ⟨hadvance, cs, rfl⟩ := hf hfirst
      obtain ⟨hadvance', ds, rfl⟩ := hg h
      exact ⟨hadvance.trans hadvance', cs ++ ds, (s.drawn_append cs ds).symm⟩

theorem makes_fail (fault : Fault) (moves : Nat) : Makes (fail fault) moves := by
  intro t t' s s' h
  cases h

/-- What is put together from single steps, with the number of moves that it makes when it succeeds. -/
inductive Composed [Platform] : (moves : Nat) → Transition → Prop where
  | step {moves : Bool} {f : Transition} : Atomic moves f → Composed moves.toNat f
  | refusal (moves : Nat) (fault : Fault) : Composed moves (fail fault)
  | andThen {m n : Nat} {f g : Transition} :
      Composed m f → Composed n g → Composed (m + n) fun t s => (f t s).andThen g

theorem composed_identity [Platform] : Composed 0 identity := .step atomic_identity

theorem composed_repeated [Platform] {f : Transition} {moves : Nat} (h : Composed moves f) (times : Nat) :
    Composed (times * moves) (repeated times f) := by
  unfold repeated
  induction times with
  | zero =>
    rw [Nat.zero_mul]
    exact composed_identity
  | succ n ih =>
    rw [List.replicate_succ, Nat.succ_mul, Nat.add_comm]
    exact h.andThen ih

theorem Composed.makes [Platform] {moves : Nat} {f : Transition} (h : Composed moves f) : f.Makes moves := by
  induction h with
  | step hatomic => exact hatomic.makes
  | refusal moves fault => exact makes_fail fault moves
  | andThen _ _ ihf ihg => exact ihf.andThen ihg

end Transition

namespace Command

theorem composed_run [Platform] (commands : List Command) :
    Transition.Composed (commands.countP isMove) (run commands) := by
  induction commands with
  | nil => exact Transition.composed_identity
  | cons c commands ih =>
    have hcount : (c :: commands).countP isMove = c.isMove.toNat + commands.countP isMove := by
      rw [List.countP_cons, Nat.add_comm]
      cases c.isMove <;> rfl
    rw [hcount]
    exact .andThen (.step c.atomic_execute) ih

theorem makes_run [Platform] (commands : List Command) : (run commands).Makes (commands.countP isMove) :=
  (composed_run commands).makes

end Command

namespace Plan

mutual

theorem composed_build [Platform] : ∀ {p : Plan} {f : Transition}, p.build = .ok f → Transition.Composed p.moveCount f
  | .move distance, f, h => perform_of_ok h ▸ .step (atomic_move distance)
  | .turn degrees, f, h => perform_of_ok h ▸ .step (atomic_turn degrees)
  | .setPen pen, f, h => by
    cases h
    exact .step (Transition.atomic_setPen pen)
  | .identity, f, h => by
    cases h
    exact Transition.composed_identity
  | .execute c, f, h => by
    cases h
    exact .step c.atomic_execute
  | .run commands, f, h => by
    cases h
    exact Command.composed_run commands
  | .pipe stages, f, h => by
    obtain ⟨fs, hfs, rfl⟩ := ok_of_map_ok h
    exact composed_buildAll hfs
  | .repeated times stage, f, h => by
    obtain ⟨g, hg, rfl⟩ := ok_of_map_ok h
    exact Transition.composed_repeated (composed_build hg) times
termination_by structural p => p

theorem composed_buildAll [Platform] :
    ∀ {stages : List Plan} {fs : List Transition}, buildAll stages = .ok fs →
      Transition.Composed (moveCountAll stages) (Transition.sequence fs)
  | [], fs, h => by
    cases h
    exact Transition.composed_identity
  | p :: rest, fs, h => by
    obtain ⟨f, hf, h⟩ := ok_of_bind_ok h
    obtain ⟨gs, hgs, h⟩ := ok_of_bind_ok h
    cases h
    exact (composed_build hf).andThen (composed_buildAll hgs)
termination_by structural stages => stages

end

theorem composed_perform [Platform] (p : Plan) : Transition.Composed p.moveCount p.perform := by
  cases h : p.build with
  | ok f =>
    rw [perform_of_ok h]
    exact composed_build h
  | error fault =>
    rw [perform_of_error h]
    exact .refusal p.moveCount fault

theorem makes_perform [Platform] (p : Plan) : p.perform.Makes p.moveCount := p.composed_perform.makes

end Plan

theorem Reaches.advances [Platform] {t₀ t : Turtle} {s₀ s : Surface} {moves : Nat} (h : Reaches t₀ s₀ t s moves) :
    t₀.Advances t moves ∧ ∃ cs, s = s₀.drawn cs := by
  induction h with
  | start => exact ⟨.refl t₀, [], rfl⟩
  | act plan _ hperform ih =>
    obtain ⟨hadvance, cs, rfl⟩ := ih
    obtain ⟨hstep, ds, rfl⟩ := plan.makes_perform hperform
    exact ⟨hadvance.trans hstep, cs ++ ds, (s₀.drawn_append cs ds).symm⟩
  | draw c _ ih =>
    obtain ⟨hadvance, cs, rfl⟩ := ih
    exact ⟨hadvance, cs ++ [c], (s₀.drawn_append cs [c]).symm⟩

/-- Every turtle that is reached from validated data is sound, stands on exact integers once there was a move, and is
on the surface that it was made on, which was only drawn on. No command finds anything but a turtle in it. -/
theorem sound_of_reaches [Platform] {position heading pen : Datum} {t₀ t : Turtle} {s₀ s : Surface} {moves : Nat}
    (hstart : Validate.turtle position heading pen = .ok t₀) (h : Reaches t₀ s₀ t s moves) :
    t.Sound ∧ (0 < moves → t.position.IsExact) ∧ (∃ cs, s = s₀.drawn cs) ∧
      ∀ (c : Command) (fault : Fault), (c.execute t s).result = .error fault → fault.kind ≠ .invariant := by
  obtain ⟨hadvance, hdrawn⟩ := h.advances
  refine ⟨hadvance.sound (Validate.sound_of_turtle hstart), hadvance.exact_of_moved, hdrawn, ?_⟩
  intro c fault hfault
  exact (c.atomic_execute.isOrdinary hfault).kind_ne

/-- A point with a fraction. The floor in a move takes it to whole numbers. -/
def halfPoint : Point := ⟨.float (.ofRatio false unitsPerOne 2), .int 0⟩

open Standard

theorem travel_halfPoint : Motion.travel (.int 1) (.int 0) halfPoint = .ok ⟨.int 1, .int 0⟩ := by
  apply ok_of_toOption
  decide +kernel

theorem sound_halfPoint :
    (Turtle.mk ⟨.int 1, .int 0⟩ (.int 0) .up).Sound ∧ (0 < 1 → (Point.mk (.int 1) (.int 0)).IsExact) := by
  have hstart : Validate.turtle (.tuple [.number halfPoint.x, .int 0]) (.int 0) (.text "up") =
      .ok ⟨halfPoint, .int 0, .up⟩ := by
    apply ok_of_toOption
    decide +kernel
  have hdistance : Validate.distance (.int 1) = .ok (.int 1) := by
    apply ok_of_toOption
    decide +kernel
  have hmove := @Plan.perform_move _ _ _ ⟨halfPoint, .int 0, .up⟩ (.recorder .empty) _ hdistance rfl travel_halfPoint
  have hreach := Reaches.act (.move (.int 1)) .start hmove
  obtain ⟨hsound, hexact, -⟩ := sound_of_reaches hstart hreach
  exact ⟨hsound, hexact⟩

end TurtleGraphics
