import Mathlib.Tactic
import TurtleGraphics.Proofs.Command.Composition
import TurtleGraphics.Proofs.Session.Transparency
import TurtleGraphics.Proofs.Turtle.Direction
import TurtleGraphics.Proofs.Turtle.Crew
import TurtleGraphics.Proofs.Turtle.Studio
import TurtleGraphics.Standard

/-! Moves by zero. A turtle that has moved stands on integers that lose nothing as binary64 numbers, so a move by zero
leaves it exactly where it is, and all that is drawn is a dot. -/

namespace TurtleGraphics

namespace Binary64

variable {x y : Binary64} {u n : Int}

theorem units?_zero_mul (negative : Bool) (h : x.isFinite = true) : ((zero negative).mul x).units? = some 0 := by
  cases x with
  | notANumber => cases h
  | infinite s => cases h
  | finite s m =>
    have hzero : Rounding.significant (Magnitude.zero.units * m.units) unitsPerOne = 0 := by
      rw [show Magnitude.zero.units = 0 from rfl, Nat.zero_mul]
      exact Rounding.significant_zero unitsPerOne_pos
    simp only [zero, mul, ofRatio, hzero, overflowUnits_pos, ↓reduceDIte, units?, Magnitude.signed]
    cases negative != s with
    | false => rfl
    | true => rfl

theorem units?_add_zero (hx : x.units? = some u) (hy : y.units? = some 0) : (x.add y).units? = some u := by
  obtain ⟨s, m, rfl, hm⟩ := finite_of_units hx
  have hrepresentable : Representable (u + 0).natAbs := by
    rw [Int.add_zero, ← hm]
    exact m.representable
  rw [units?_add hx hy hrepresentable, Int.add_zero]

theorem floor?_of_whole (h : x.units? = some (n * unitsPerOne)) : x.floor? = some n := by
  have hpos : (unitsPerOne : Int) ≠ 0 := by exact_mod_cast unitsPerOne_pos.ne'
  rw [floor?, h, Option.map_some, Int.mul_ediv_cancel n hpos]

end Binary64

namespace Number

def IsZero (x : Number) : Prop := x = .int 0 ∨ ∃ negative, x = .float (.zero negative)

variable {x : Number}

theorem IsZero.nearest (h : x.IsZero) : ∃ negative, x.nearest = .zero negative := by
  rcases h with rfl | ⟨negative, rfl⟩
  · exact ⟨false, Binary64.ofInt_zero⟩
  · exact ⟨negative, rfl⟩

theorem IsZero.isFinite (h : x.IsZero) : x.IsFinite := by
  obtain ⟨negative, hnearest⟩ := h.nearest
  apply isFinite_iff.mpr
  rw [hnearest]
  rfl

theorem IsExact.units?_nearest (h : x.IsExact) :
    ∃ n : Int, x = .int n ∧ x.nearest.units? = some (n * unitsPerOne) := by
  obtain ⟨n, rfl, hn⟩ := h
  exact ⟨n, rfl, hn⟩

end Number

theorem Validate.distance_of_isFinite {x : Number} (h : x.IsFinite) : distance (.number x) = .ok x := by
  have hfinite := finite_eq_ok_iff.mpr (Number.isFinite?_eq_true_iff.mpr h)
  unfold distance
  simp only [hfinite]
  rfl

namespace Motion

theorem advance_zero {x component : Binary64} {n : Int} (negative : Bool) (hx : x.units? = some (n * unitsPerOne))
    (hcomponent : component.isFinite = true) : (advance x (.zero negative) component).floor? = some n := by
  apply Binary64.floor?_of_whole
  exact Binary64.units?_add_zero hx (Binary64.units?_zero_mul negative hcomponent)

/-- From an exact place no step of zero leads away, whatever the heading. -/
theorem travel_zero [Platform] {distance heading : Number} {p : Point} (hzero : distance.IsZero)
    (hheading : Validate.inRange heading = true) (hp : p.IsExact) : travel distance heading p = .ok p := by
  obtain ⟨d, hd, hcosine, hsine⟩ := exists_direction hheading
  obtain ⟨negative, hnearest⟩ := hzero.nearest
  obtain ⟨i, hi, hx⟩ := hp.x.units?_nearest
  obtain ⟨j, hj, hy⟩ := hp.y.units?_nearest
  have hfloorX := advance_zero negative hx hcosine
  have hfloorY := advance_zero negative hy hsine
  unfold travel
  rw [hd, binary64_of_isFinite hzero.isFinite, binary64_of_isFinite hp.isFinite.x, binary64_of_isFinite hp.isFinite.y,
    hnearest]
  dsimp only [bind, Except.bind]
  unfold arrive
  rw [hfloorX, hfloorY]
  dsimp only
  rw [← hi, ← hj]

end Motion

namespace Recorder

/-- What is left of a recorder after a number of dots at one point: a segment and a stroke for each. -/
structure Dotted (p : Point) (dots : Nat) (r r' : Recorder) : Prop where
  segments : ∃ added, r'.segments = r.segments ++ added ∧ added.length = dots ∧
    ∀ segment ∈ added, Travel.IsSegment ⟨.down, p, p⟩ segment
  strokes : r'.strokes = r.strokes + dots
  pending : r'.pending = []

variable {p : Point} {m n : Nat} {r r' r'' : Recorder}

theorem Dotted.refl (h : r.pending = []) (p : Point) : Dotted p 0 r r :=
  ⟨⟨[], (List.append_nil _).symm, rfl, nofun⟩, rfl, h⟩

theorem Dotted.trans (h : Dotted p m r r') (h' : Dotted p n r' r'') : Dotted p (m + n) r r'' where
  segments := by
    obtain ⟨first, hfirst, hlength, hdots⟩ := h.segments
    obtain ⟨second, hsecond, hlength', hdots'⟩ := h'.segments
    refine ⟨first ++ second, ?_, ?_, List.forall_mem_append.mpr ⟨hdots, hdots'⟩⟩
    · rw [hsecond, hfirst, List.append_assoc]
    · rw [List.length_append, hlength, hlength']
  strokes := by rw [h'.strokes, h.strokes, Nat.add_assoc]
  pending := h'.pending

/-- A move that ends where it started leaves a dot with the pen down, and nothing with the pen up. -/
theorem exists_dotted (h : r.pending = []) (hp : p.IsFinite) (pen : Pen) :
    ∃ r', (Surface.recorder r).drawn (Transition.moveCalls pen p p) = .recorder r' ∧
      Dotted p (decide (pen = .down)).toNat r r' := by
  cases pen with
  | up => exact ⟨_, drawn_up r p p, ⟨[], (List.append_nil _).symm, rfl, nofun⟩, rfl, h⟩
  | down =>
    refine ⟨_, drawn_down h p p, ?_, rfl, h⟩
    have hself := Mark.same_self hp
    obtain ⟨start, hstart, hsegments⟩ := segments_join hself false [.ofPoint p] r.paths
    exact ⟨[(start, .ofPoint p)], hsegments, rfl, List.forall_mem_singleton.mpr ⟨hstart, hself⟩⟩

end Recorder

namespace Command

variable {commands : List Command} {t : Turtle}

/-- A move by no value, or by a zero. -/
def StandsStill (c : Command) : Prop := c.verb? = some .move ∧ ∃ x, c.amount = .number x ∧ x.IsZero

/-- The calls of a number of moves that end where they started. -/
def dotCalls (t : Turtle) (times : Nat) : List SurfaceCall :=
  (List.replicate times (Transition.moveCalls t.pen t.position t.position)).flatten

theorem StandsStill.sends [Platform] {c : Command} (h : c.StandsStill) (ht : t.Sound) (hexact : t.position.IsExact) :
    c.execute.Sends t (Transition.moveCalls t.pen t.position t.position) (.ok t) := by
  obtain ⟨hverb, x, hx, hzero⟩ := h
  have htransition : c.transition = .ok (Transition.moveBy x) := by
    simp only [transition, hverb, Transition.move, hx, Validate.distance_of_isFinite hzero.isFinite, Except.map]
  rw [execute_of_ok htransition]
  exact Transition.sends_moveBy (Motion.travel_zero hzero ht.inRange hexact)

/-- On any surface that takes the calls. -/
theorem sends_of_standsStill [Platform] (h : ∀ c ∈ commands, c.StandsStill) (ht : t.Sound)
    (hexact : t.position.IsExact) :
    (run commands).Sends t (dotCalls t commands.length) (.ok t) := by
  induction commands with
  | nil =>
    intro s _
    rfl
  | cons c commands ih =>
    rw [List.forall_mem_cons] at h
    exact (h.1.sends ht hexact).andThen (ih h.2)

theorem exists_dotted_dotCalls {r : Recorder} (h : r.pending = []) (hp : t.position.IsFinite) (times : Nat) :
    ∃ r', (Surface.recorder r).drawn (dotCalls t times) = .recorder r' ∧
      r.Dotted t.position (times * t.isDrawing.toNat) r' := by
  induction times generalizing r with
  | zero =>
    rw [Nat.zero_mul]
    exact ⟨r, rfl, .refl h t.position⟩
  | succ times ih =>
    obtain ⟨r', hdrawn, hdotted⟩ := Recorder.exists_dotted h hp t.pen
    obtain ⟨r'', hdrawn', hdotted'⟩ := ih hdotted.pending
    refine ⟨r'', ?_, ?_⟩
    · rw [dotCalls, List.replicate_succ, List.flatten_cons, Surface.drawn_append, hdrawn]
      exact hdrawn'
    · rw [Nat.succ_mul, Nat.add_comm]
      exact hdotted.trans hdotted'

end Command

theorem Transition.sequence_cons (f : Transition) (rest : List Transition) (t : Turtle) (s : Surface) :
    sequence (f :: rest) t s = (f t s).andThen (sequence rest) := rfl

namespace Plan

variable {t : Turtle} {s : Surface} {x : Number}

theorem buildAll_pair [Platform] {f g : Transition} {first second : Plan} (hf : first.build = .ok f)
    (hg : second.build = .ok g) : buildAll [first, second] = .ok [f, g] := by
  rw [buildAll, buildAll, buildAll, hf, hg]
  rfl

/-- A move by zero behind any move leads to the same turtle or the same fault. -/
theorem result_move_zero [Platform] (ht : t.Sound) (hs : s.onlyRecorders = true) (distance : Datum) (hx : x.IsZero) :
    ((pipe [.move distance, .move (.number x)]).perform t s).result = ((move distance).perform t s).result := by
  have hzero : (move (.number x)).build = .ok (Transition.moveBy x) := by
    simp only [build, Transition.move, Validate.distance_of_isFinite hx.isFinite, Except.map]
  cases hbuild : (move distance).build with
  | error fault =>
    have hrefused : buildAll [.move distance, .move (.number x)] = .error fault := by
      rw [buildAll, hbuild]
      rfl
    rw [perform_pipe_of_error hrefused, perform_of_error hbuild]
  | ok f =>
    obtain ⟨d, -, rfl⟩ := ok_of_map_ok hbuild
    rw [perform_pipe_of_ok (buildAll_pair hbuild hzero), perform_of_ok hbuild]
    cases hstop : Motion.travel d t.heading t.position with
    | error fault =>
      have hfault : (Transition.moveBy d t s).result = .error fault := by
        rw [Transition.moveBy_eq, hstop]
      rw [Transition.sequence_cons, Outcome.andThen_error hfault]
    | ok stop =>
      have hstill := Motion.travel_zero hx ht.inRange (Motion.isExact_of_travel hstop)
      have hfirst := Transition.moveBy_of_travel hs hstop
      have hs' := Surface.onlyRecorders_drawn hs (Transition.moveCalls t.pen t.position stop)
      have hsecond := Transition.moveBy_of_travel (t := { t with position := stop }) hs' hstill
      rw [Transition.sequence_cons, Outcome.andThen_ok hfirst, Transition.sequence_cons, Outcome.andThen_ok hsecond,
        hfirst]
      rfl

end Plan

/-- A turtle that has moved stays exactly as it is under any number of moves by nothing, on every surface that takes
the calls. Of a recorder that only turtles draw on it leaves as many dots, drawn with the pen down, and nothing else. A
turtle that has not moved yet may be moved by the first of them, but not by one behind another move. -/
theorem Crew.stands_still [Platform] {s₀ s : Surface} {crew : List (Turtle × Nat)} {t : Turtle} {moves : Nat}
    (h : Crew s₀ crew s) (hmem : (t, moves) ∈ crew) :
    (∀ commands : List Command, 0 < moves → (∀ c ∈ commands, c.StandsStill) →
      (∀ s', s'.Takes (Command.dotCalls t commands.length) →
        Command.run commands t s' = ⟨.ok t, s'.drawn (Command.dotCalls t commands.length)⟩) ∧
      (s₀ = .recorder .empty → ∃ r r', s = .recorder r ∧
        Command.run commands t s = ⟨.ok t, .recorder r'⟩ ∧
          r.Dotted t.position (commands.length * t.isDrawing.toNat) r')) ∧
    ∀ distance x s', x.IsZero → s'.onlyRecorders = true →
      ((Plan.pipe [.move distance, .move (.number x)]).perform t s').result =
        ((Plan.move distance).perform t s').result := by
  obtain ⟨hsound, hexact⟩ := h.sound _ hmem
  refine ⟨?_, fun distance x s' hx hs' => Plan.result_move_zero hsound hs' distance hx⟩
  intro commands hmoved hstill
  have hsends := Command.sends_of_standsStill hstill hsound (hexact hmoved)
  refine ⟨hsends, ?_⟩
  rintro rfl
  obtain ⟨r, rfl, hsettled⟩ := h.isSettled ⟨.empty, rfl, Recorder.isSettled_empty⟩
  obtain ⟨r', hdrawn, hdotted⟩ := Command.exists_dotted_dotCalls hsettled.pending hsound.position commands.length
  refine ⟨r, r', rfl, ?_, hdotted⟩
  rw [hsends _ (Surface.takes_of_onlyRecorders rfl _), hdrawn]

/-- A move by no value, and one by the zero below zero. -/
def Command.stays : List Command := [⟨.text "MOVE", .null⟩, ⟨.verb .move, .float (.zero true)⟩]

open Standard

/-- From a start between the whole numbers one move is enough. -/
theorem Crew.stands_still_at_one :
    ∃ s r r', s = .recorder r ∧
      Crew (.recorder .empty) [(⟨halfPoint, .int 0, .down⟩, 0), (⟨⟨.int 1, .int 0⟩, .int 0, .down⟩, 1)] s ∧
      (∀ c ∈ Command.stays, c.StandsStill) ∧
      Command.run Command.stays ⟨⟨.int 1, .int 0⟩, .int 0, .down⟩ s =
        ⟨.ok ⟨⟨.int 1, .int 0⟩, .int 0, .down⟩, .recorder r'⟩ ∧
      r.Dotted ⟨.int 1, .int 0⟩ 2 r' ∧
      ((Plan.pipe [.move (.int 1), .move (.float (.zero true))]).perform ⟨⟨.int 1, .int 0⟩, .int 0, .down⟩ s).result =
        ((Plan.move (.int 1)).perform ⟨⟨.int 1, .int 0⟩, .int 0, .down⟩ s).result := by
  have hstays : ∀ c ∈ Command.stays, c.StandsStill := by
    simp only [Command.stays, List.forall_mem_cons, List.not_mem_nil, false_implies, implies_true, and_true]
    exact ⟨⟨rfl, .int 0, rfl, .inl rfl⟩, rfl, .float (.zero true), rfl, .inr ⟨true, rfl⟩⟩
  have hmem : (Turtle.mk ⟨.int 1, .int 0⟩ (.int 0) .down, 1) ∈
      [(Turtle.mk halfPoint (.int 0) .down, 0), (Turtle.mk ⟨.int 1, .int 0⟩ (.int 0) .down, 1)] :=
    List.mem_cons_of_mem _ (List.mem_singleton_self _)
  obtain ⟨hstill, hpipe⟩ := Crew.stands_still Crew.reach_halfPoint hmem
  obtain ⟨-, hdots⟩ := hstill Command.stays Nat.one_pos hstays
  obtain ⟨r, r', hr, hrun, hdotted⟩ := hdots rfl
  exact ⟨_, r, r', hr, Crew.reach_halfPoint, hstays, hrun, hdotted, hpipe (.int 1) _ _ (.inr ⟨true, rfl⟩) rfl⟩

end TurtleGraphics
