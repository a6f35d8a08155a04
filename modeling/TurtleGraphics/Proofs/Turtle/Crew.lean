import Mathlib.Tactic
import TurtleGraphics.Proofs.Surface.Recorder
import TurtleGraphics.Proofs.Turtle.Reachable
import TurtleGraphics.Standard

/-! Turtles that have a surface to themselves. All of them are sound, and a recorder that only they draw on holds
paths of finite points and no stroke that is not committed. -/

namespace TurtleGraphics

/-- Turtles that were reached on a surface that nothing else draws on, each with the number of moves that led to it. A
plan that fails reaches no turtle, but what it drew stays. -/
inductive Crew [Platform] (s₀ : Surface) : List (Turtle × Nat) → Surface → Prop where
  | opened : Crew s₀ [] s₀
  | create {crew : List (Turtle × Nat)} {s : Surface} {position heading pen : Datum} {t : Turtle} :
      Crew s₀ crew s → Validate.turtle position heading pen = .ok t → Crew s₀ (crew ++ [(t, 0)]) s
  | reach {crew : List (Turtle × Nat)} {s s' : Surface} {t t' : Turtle} {moves : Nat} (plan : Plan) :
      Crew s₀ crew s → (t, moves) ∈ crew → plan.perform t s = ⟨.ok t', s'⟩ →
        Crew s₀ (crew ++ [(t', moves + plan.moveCount)]) s'
  | stop {crew : List (Turtle × Nat)} {s s' : Surface} {t : Turtle} {moves : Nat} {fault : Fault} (plan : Plan) :
      Crew s₀ crew s → (t, moves) ∈ crew → plan.perform t s = ⟨.error fault, s'⟩ → Crew s₀ crew s'

namespace Recorder

/-- A recorder between moves: no stroke is pending, and every path has two finite points at least. -/
structure IsSettled (r : Recorder) : Prop where
  pending : r.pending = []
  paths : ∀ path ∈ r.paths, 2 ≤ path.length ∧ ∀ m ∈ path, ∃ p : Point, m = .ofPoint p ∧ p.IsFinite

theorem isSettled_empty : IsSettled .empty := ⟨rfl, nofun⟩

variable {r : Recorder} {start stop : Point}

theorem IsSettled.moveCalls (h : r.IsSettled) (pen : Pen) (hstart : start.IsFinite) (hstop : stop.IsFinite) :
    ∃ r', (Surface.recorder r).drawn (Transition.moveCalls pen start stop) = .recorder r' ∧ r'.IsSettled := by
  cases pen with
  | up => exact ⟨_, drawn_up r start stop, h.pending, h.paths⟩
  | down =>
    refine ⟨_, drawn_down h.pending start stop, h.pending, ?_⟩
    have hends : ∀ m ∈ [Mark.ofPoint start, .ofPoint stop], ∃ p : Point, m = .ofPoint p ∧ p.IsFinite := by
      rw [List.forall_mem_cons, List.forall_mem_singleton]
      exact ⟨⟨start, rfl, hstart⟩, stop, rfl, hstop⟩
    dsimp only
    rcases join_cases false (.ofPoint start) [.ofPoint stop] r.paths with ⟨hjoin, -⟩ | ⟨earlier, path, hpaths, -, hjoin⟩
    · rw [hjoin, List.forall_mem_append, List.forall_mem_singleton]
      exact ⟨h.paths, Nat.le_refl 2, hends⟩
    · have hold := h.paths
      rw [hpaths, List.forall_mem_append, List.forall_mem_singleton] at hold
      obtain ⟨hearlier, hlength, hmarks⟩ := hold
      rw [hjoin, List.forall_mem_append, List.forall_mem_singleton, List.forall_mem_append]
      refine ⟨hearlier, ?_, hmarks, (List.forall_mem_cons.mp hends).2⟩
      rw [List.length_append]
      omega

end Recorder

def Surface.IsSettled (s : Surface) : Prop := ∃ r, s = .recorder r ∧ r.IsSettled

namespace Transition

theorem Atomic.isSettled [Platform] {moves : Bool} {f : Transition} (h : Atomic moves f) {t : Turtle} (ht : t.Sound)
    {s : Surface} (hs : s.IsSettled) : (f t s).surface.IsSettled := by
  obtain ⟨r, rfl, hsettled⟩ := hs
  cases h with
  | move distance =>
    cases hstop : Motion.travel distance t.heading t.position with
    | error fault =>
      rw [moveBy_eq, hstop]
      exact ⟨r, rfl, hsettled⟩
    | ok stop =>
      rw [moveBy_of_travel rfl hstop]
      exact hsettled.moveCalls t.pen ht.position (Motion.isExact_of_travel hstop).isFinite
  | refusal _ _ => exact ⟨r, rfl, hsettled⟩
  | still _ _ _ => exact ⟨r, rfl, hsettled⟩

/-- Every move commits its own stroke, so between plans no stroke is pending. -/
theorem Composed.isSettled [Platform] {moves : Nat} {f : Transition} (h : Composed moves f) {t : Turtle} (ht : t.Sound)
    {s : Surface} (hs : s.IsSettled) : (f t s).surface.IsSettled := by
  induction h generalizing t s with
  | step hatomic => exact hatomic.isSettled ht hs
  | refusal _ fault => exact hs
  | @andThen m n f g hfirst _ ihf ihg =>
    have hsettled := ihf ht hs
    dsimp only
    cases hf : f t s with
    | mk result s₁ =>
      rw [hf] at hsettled
      cases result with
      | error fault => exact hsettled
      | ok t₁ => exact ihg ((hfirst.makes hf).1.sound ht) hsettled

end Transition

namespace Crew

variable {s₀ s : Surface} {crew : List (Turtle × Nat)}

theorem sound [Platform] (h : Crew s₀ crew s) :
    ∀ member ∈ crew, member.1.Sound ∧ (0 < member.2 → member.1.position.IsExact) := by
  induction h with
  | opened =>
    intro member hmem
    cases hmem
  | create _ hcreate ih =>
    have hsound := Validate.sound_of_turtle hcreate
    rw [List.forall_mem_append, List.forall_mem_singleton]
    refine ⟨ih, hsound, ?_⟩
    intro hpos
    exact absurd hpos (Nat.lt_irrefl 0)
  | @reach _ _ _ t _ moves plan _ hmem hperform ih =>
    obtain ⟨hsound, hexact⟩ := ih _ hmem
    obtain ⟨hadvance, -⟩ := plan.makes_perform hperform
    rw [List.forall_mem_append, List.forall_mem_singleton]
    refine ⟨ih, hadvance.sound hsound, ?_⟩
    intro hpos
    rcases Nat.eq_zero_or_pos plan.moveCount with hnone | hsome
    · exact hadvance.exact_of_exact (hexact (by omega))
    · exact hadvance.exact_of_moved hsome
  | stop _ _ _ _ ih => exact ih

theorem isSettled [Platform] (h : Crew s₀ crew s) (hs : s₀.IsSettled) : s.IsSettled := by
  induction h with
  | opened => exact hs
  | create _ _ ih => exact ih
  | @reach _ _ _ t _ _ plan hcrew hmem hperform ih =>
    have hsettled := plan.composed_perform.isSettled (hcrew.sound _ hmem).1 ih
    rwa [hperform] at hsettled
  | @stop _ _ _ t _ _ plan hcrew hmem hperform ih =>
    have hsettled := plan.composed_perform.isSettled (hcrew.sound _ hmem).1 ih
    rwa [hperform] at hsettled

open Standard

/-- A turtle between the whole numbers, and where its first move takes it. -/
theorem reach_halfPoint :
    Crew (.recorder .empty) [(⟨halfPoint, .int 0, .down⟩, 0), (⟨⟨.int 1, .int 0⟩, .int 0, .down⟩, 1)]
      ((Surface.recorder .empty).drawn (Transition.moveCalls .down halfPoint ⟨.int 1, .int 0⟩)) := by
  have hstart : Validate.turtle (.tuple [.number halfPoint.x, .int 0]) (.int 0) (.text "down") =
      .ok ⟨halfPoint, .int 0, .down⟩ := by
    apply ok_of_toOption
    decide +kernel
  have hdistance : Validate.distance (.int 1) = .ok (.int 1) := by
    apply ok_of_toOption
    decide +kernel
  have hmove := @Plan.perform_move _ _ _ ⟨halfPoint, .int 0, .down⟩ (.recorder .empty) _ hdistance rfl travel_halfPoint
  exact (Crew.opened.create hstart).reach (.move (.int 1)) (List.mem_singleton_self _) hmove

end Crew

end TurtleGraphics
