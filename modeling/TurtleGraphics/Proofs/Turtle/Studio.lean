import Mathlib.Tactic
import TurtleGraphics.Proofs.Surface.Recorder
import TurtleGraphics.Proofs.Turtle.Transition

/-! Turtles that share a recorder. Whatever turtles are made, and in whatever order they act, the recorder holds the
moves that succeeded with the pen down, as its segments and in their order. -/

namespace TurtleGraphics

/-- A transition that makes at most one move. -/
inductive Deed where
  | move (distance : Datum)
  | turn (degrees : Datum)
  | setPen (pen : Pen)
  | identity
  | execute (c : Command)

namespace Deed

def plan : Deed → Plan
  | .move distance => .move distance
  | .turn degrees => .turn degrees
  | .setPen pen => .setPen pen
  | .identity => .identity
  | .execute c => .execute c

def isMove : Deed → Bool
  | .move _ => true
  | .execute c => c.isMove
  | _ => false

theorem atomic [Platform] (d : Deed) : Transition.Atomic d.isMove d.plan.perform := by
  cases d with
  | move distance => exact Plan.atomic_move distance
  | turn degrees => exact Plan.atomic_turn degrees
  | setPen pen => exact Transition.atomic_setPen pen
  | identity => exact Transition.atomic_identity
  | execute c => exact c.atomic_execute

end Deed

/-- A move that succeeded. -/
structure Travel where
  pen : Pen
  start : Point
  stop : Point

namespace Travel

def isDrawn (m : Travel) : Bool := m.pen = .down

def IsSegment (m : Travel) (segment : Mark × Mark) : Prop :=
  segment.1.same (.ofPoint m.start) = true ∧ segment.2.same (.ofPoint m.stop) = true

end Travel

/-- A recorder holds moves: the drawn ones as segments, equal as numbers, and all of them in its counts. -/
structure Recorder.Holds (r : Recorder) (travels : List Travel) : Prop where
  segments : List.Forall₂ Travel.IsSegment (travels.filter Travel.isDrawn) r.segments
  strokes : r.strokes = (travels.filter Travel.isDrawn).length
  moves : r.moves = travels.length
  pending : r.pending = []
  cursor : r.cursor = (travels.getLast?).elim .origin fun m => .ofPoint m.stop

/-- Turtles that were reached on one surface, and the moves of all of them that succeeded, in order. -/
structure Studio where
  turtles : List Turtle
  surface : Surface
  travels : List Travel

namespace Studio

/-- What can happen in a studio: a turtle is made from raw data, or one that was reached so far acts. -/
inductive Event where
  | create (position heading pen : Datum)
  | act (turtle : Nat) (deed : Deed)

def opened (s : Surface) : Studio := ⟨[], s, []⟩

/-- Refused data and failed deeds reach no turtle. What a failed deed did to the surface stays. -/
def step [Platform] (w : Studio) : Event → Studio
  | .create position heading pen =>
    match Validate.turtle position heading pen with
    | .ok t => { w with turtles := w.turtles ++ [t] }
    | .error _ => w
  | .act n deed =>
    match w.turtles[n]? with
    | none => w
    | some t =>
      match deed.plan.perform t w.surface with
      | ⟨.ok t', s⟩ =>
        { turtles := w.turtles ++ [t'], surface := s,
          travels := if deed.isMove then w.travels ++ [⟨t.pen, t.position, t'.position⟩] else w.travels }
      | ⟨.error _, s⟩ => { w with surface := s }

def run [Platform] (w : Studio) (events : List Event) : Studio := events.foldl step w

end Studio

namespace Recorder

variable {r : Recorder} {travels : List Travel}

theorem holds_empty : Recorder.Holds .empty [] := ⟨.nil, rfl, rfl, rfl, rfl⟩

theorem filter_up (travels : List Travel) (start stop : Point) :
    (travels ++ [Travel.mk .up start stop]).filter Travel.isDrawn = travels.filter Travel.isDrawn := by
  rw [List.filter_append]
  exact List.append_nil _

theorem Holds.travel_up (h : r.Holds travels) (start stop : Point) :
    (r.moveTo (.ofPoint stop)).Holds (travels ++ [⟨.up, start, stop⟩]) where
  segments := by
    rw [filter_up]
    exact h.segments
  strokes := by
    rw [filter_up]
    exact h.strokes
  moves := by simp [moveTo, h.moves]
  pending := h.pending
  cursor := by simp [moveTo]

theorem Holds.travel_down (h : r.Holds travels) {start stop : Point} (hstart : start.IsFinite)
    (hstop : stop.IsFinite) :
    Holds { r with
        paths := join false (.ofPoint start) [.ofPoint stop] r.paths
        cursor := .ofPoint stop
        moves := r.moves + 1
        strokes := r.strokes + 1
        resting := true
        continuing := false } (travels ++ [⟨.down, start, stop⟩]) where
  segments := by
    obtain ⟨first, hfirst, hsegments⟩ := segments_join (Mark.same_self hstart) false [.ofPoint stop] r.paths
    have hlast : Travel.IsSegment ⟨.down, start, stop⟩ (first, .ofPoint stop) := ⟨hfirst, Mark.same_self hstop⟩
    have happend := List.rel_append h.segments (.cons hlast .nil)
    unfold Recorder.segments
    rw [hsegments, List.filter_append]
    exact happend
  strokes := by simp [Travel.isDrawn, h.strokes]
  moves := by simp [h.moves]
  pending := h.pending
  cursor := by simp

/-- One more move, drawn or not, is held behind those that were held. -/
theorem Holds.travel (h : r.Holds travels) (pen : Pen) {start stop : Point} (hstart : start.IsFinite)
    (hstop : stop.IsFinite) :
    ∃ r', (Surface.recorder r).drawn (Transition.moveCalls pen start stop) = .recorder r' ∧
      r'.Holds (travels ++ [⟨pen, start, stop⟩]) := by
  cases pen with
  | up => exact ⟨_, drawn_up r start stop, h.travel_up start stop⟩
  | down => exact ⟨_, drawn_down h.pending start stop, h.travel_down hstart hstop⟩

end Recorder

namespace Studio

/-- What holds between steps: every turtle stands on a finite point, and the recorder holds the moves. -/
structure Recorded (w : Studio) : Prop where
  finite : ∀ t ∈ w.turtles, t.position.IsFinite
  holds : ∃ r, w.surface = .recorder r ∧ r.Holds w.travels

theorem recorded_opened : (opened (.recorder .empty)).Recorded := by
  refine ⟨?_, .empty, rfl, Recorder.holds_empty⟩
  intro t ht
  cases ht

theorem finite_append {ts : List Turtle} {t : Turtle} (hts : ∀ u ∈ ts, u.position.IsFinite)
    (ht : t.position.IsFinite) : ∀ u ∈ ts ++ [t], u.position.IsFinite := by
  intro u hu
  rcases List.mem_append.mp hu with h | h
  · exact hts u h
  · rw [List.mem_singleton.mp h]
    exact ht

theorem recorded_create [Platform] {w : Studio} (h : w.Recorded) (position heading pen : Datum) :
    (w.step (.create position heading pen)).Recorded := by
  unfold step
  dsimp only
  split
  · next t ht =>
    obtain ⟨p, hp, ht⟩ := ok_of_bind_ok ht
    obtain ⟨x, -, ht⟩ := ok_of_bind_ok ht
    obtain ⟨q, -, ht⟩ := ok_of_bind_ok ht
    cases ht
    exact ⟨finite_append h.finite (Validate.isFinite_of_point hp), h.holds⟩
  · exact h

theorem recorded_act [Platform] {w : Studio} (h : w.Recorded) (n : Nat) (deed : Deed) :
    (w.step (.act n deed)).Recorded := by
  obtain ⟨r, hr, hholds⟩ := h.holds
  have hatomic := deed.atomic
  unfold step
  dsimp only
  split
  · exact h
  · next t ht =>
    have hstart := h.finite t (List.mem_of_getElem? ht)
    split
    · next t' s hperform =>
      cases hmove : deed.isMove with
      | false =>
        rw [hmove] at hatomic
        obtain ⟨rfl, hplace, -⟩ := hatomic.of_still hperform
        exact ⟨finite_append h.finite (hplace ▸ hstart), h.holds⟩
      | true =>
        rw [hmove] at hatomic
        obtain ⟨stop, hstop, rfl, rfl⟩ := hatomic.of_move hperform
        rw [hr]
        obtain ⟨r', hdrawn, hr'⟩ := hholds.travel t.pen hstart hstop.isFinite
        exact ⟨finite_append h.finite hstop.isFinite, r', hdrawn, hr'⟩
    · next fault s hperform =>
      have hs : s = w.surface := by
        have := hatomic.surface_of_error (t := t) (s := w.surface) (by rw [hr]; rfl) (by rw [hperform])
        rwa [hperform] at this
      rw [hs]
      exact h

theorem recorded_step [Platform] {w : Studio} (h : w.Recorded) : ∀ e : Event, (w.step e).Recorded
  | .create position heading pen => recorded_create h position heading pen
  | .act n deed => recorded_act h n deed

theorem recorded_run [Platform] {w : Studio} (h : w.Recorded) (events : List Event) : (w.run events).Recorded := by
  induction events generalizing w with
  | nil => exact h
  | cons e events ih => exact ih (recorded_step h e)

/-- After any events on a fresh recorder it holds exactly the moves that succeeded: none is lost, doubled or made up
where strokes are joined. -/
theorem recorder_holds_run [Platform] (events : List Event) :
    ∃ r, ((opened (.recorder .empty)).run events).surface = .recorder r ∧
      r.Holds ((opened (.recorder .empty)).run events).travels :=
  (recorded_run recorded_opened events).holds

end Studio

end TurtleGraphics
