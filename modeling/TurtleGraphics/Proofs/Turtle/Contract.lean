import Mathlib.Tactic
import TurtleGraphics.Proofs.Binary64.Overflow
import TurtleGraphics.Proofs.Turtle.Direction
import TurtleGraphics.Standard

/-! Which data turtles and validators answer as they promise: with a valid value, or with a fault of the domain. Nothing
stands in the way but integers, those too large for a binary64 number and those too long for a message. -/

namespace TurtleGraphics

/-- A computation that ends as promised: with a value that has the property, or with a fault of the domain. -/
def Answers {α : Type} (P : α → Prop) : Except Fault α → Prop
  | .ok a => P a
  | .error fault => fault.kind = .domain

/-- What every value of a computation has need not be asked for. -/
theorem answers_iff_of_ok {α : Type} {P : α → Prop} {r : Except Fault α} (h : ∀ a, r = .ok a → P a) :
    Answers P r ↔ Answers (fun _ => True) r := by
  cases r with
  | ok a => exact iff_of_true (h a rfl) trivial
  | error fault => exact Iff.rfl

theorem Fault.kind_domain_iff {cause : DomainFault} :
    (Fault.domain cause).kind = .domain ↔ cause.isWritable = true := by
  change (if cause.isWritable = true then FaultKind.domain else .value) = .domain ↔ _
  split
  · simp only [*]
  · simp only [reduceCtorEq, *]

namespace Number

/-- An integer from half a step past the largest binary64 number on. -/
def IsHuge : Number → Prop
  | .int n => Nat.pow 2 1024 ≤ n.natAbs + Nat.pow 2 970
  | .float _ => False

theorem isFinite_int_iff {n : Int} : (Number.int n).IsFinite ↔ ¬(Number.int n).IsHuge := by
  rw [isFinite_iff, nearest_int, Binary64.isFinite_ofInt_iff, IsHuge, Nat.not_le]

theorem toBinary64?_of_isHuge {x : Number} (h : x.IsHuge) : x.toBinary64? = none := by
  cases x with
  | float x => cases h
  | int n =>
    have hinfinite : ¬(Binary64.ofInt n).isFinite = true := fun hfinite =>
      isFinite_int_iff.mp (isFinite_iff.mpr hfinite) h
    unfold toBinary64? Binary64.ofInt?
    exact if_neg hinfinite

theorem toBinary64?_of_not_isHuge {x : Number} (h : ¬x.IsHuge) : x.toBinary64? = some x.nearest := by
  cases x with
  | float x => rfl
  | int n => exact (isFinite_int_iff.mpr h).toBinary64?

/-- Integers become huge long before they are too long to be written. -/
theorem isWritable_of_not_isHuge {x : Number} (h : ¬x.IsHuge) : x.isWritable = true := by
  cases x with
  | float x => rfl
  | int n => exact (isFinite_int_iff.mpr h).isWritable

theorem not_isHuge_of_inRange {x : Number} (h : Validate.inRange x = true) : ¬x.IsHuge := by
  cases x with
  | float x => exact id
  | int n => exact isFinite_int_iff.mp (isFinite_of_inRange h)

end Number

namespace Validate

variable {x y : Number}

theorem finite_cases (x : Number) :
    (x.IsHuge ∧ finite x = .error .integerTooLarge) ∨ (¬x.IsHuge ∧ x.IsFinite ∧ finite x = .ok true) ∨
      (¬x.IsHuge ∧ ¬x.IsFinite ∧ finite x = .ok false) := by
  by_cases hhuge : x.IsHuge
  · refine .inl ⟨hhuge, ?_⟩
    unfold finite Number.isFinite?
    rw [Number.toBinary64?_of_isHuge hhuge]
    rfl
  · have hasked : finite x = .ok x.nearest.isFinite := by
      unfold finite Number.isFinite?
      rw [Number.toBinary64?_of_not_isHuge hhuge]
      rfl
    by_cases hfinite : x.nearest.isFinite = true
    · exact .inr (.inl ⟨hhuge, Number.isFinite_iff.mpr hfinite, by rw [hasked, hfinite]⟩)
    · refine .inr (.inr ⟨hhuge, mt Number.isFinite_iff.mp hfinite, ?_⟩)
      rw [hasked, Bool.not_eq_true _ |>.mp hfinite]

/-- Coordinates that the check of a point gets along with. It asks the second number only if the first one is finite,
and otherwise shows both. -/
def IsManageablePair : Datum → Datum → Prop
  | .number x, .number y =>
    ¬x.IsHuge ∧ (x.IsFinite → ¬y.IsHuge) ∧ (¬x.IsFinite → y.isWritable = true)
  | x, y => x.isWritable = true ∧ y.isWritable = true

/-- A datum that the check of a point gets along with, by its two coordinates if it has two. -/
def IsManageablePoint (value : Datum) : Prop :=
  match coordinates value with
  | .ok (x, y) => IsManageablePair x y
  | .error fault => fault.isWritable = true

theorem domain_of_coordinates {value : Datum} {fault : Fault} (h : coordinates value = .error fault) :
    ∃ cause, fault = .domain cause := by
  unfold coordinates at h
  split at h
  · cases h
  · split at h
    · cases h
    · cases h; exact ⟨_, rfl⟩
    · cases h; exact ⟨_, rfl⟩
  · cases h
  · cases h
  · cases h
  · cases h
  · split at h
    · cases h
    · cases h; exact ⟨_, rfl⟩

theorem answers_finitePoint (x y : Number) :
    Answers Point.IsFinite (finitePoint ⟨x, y⟩) ↔ IsManageablePair (.number x) (.number y) := by
  unfold finitePoint IsManageablePair
  dsimp only
  rcases finite_cases x with ⟨hx, hask⟩ | ⟨hx, hfinite, hask⟩ | ⟨hx, hinfinite, hask⟩
  · rw [hask]
    exact iff_of_false nofun fun h => h.1 hx
  · rw [hask]
    rcases finite_cases y with ⟨hy, hask⟩ | ⟨hy, hfinite', hask⟩ | ⟨hy, hinfinite, hask⟩
    · rw [hask]
      exact iff_of_false nofun fun h => h.2.1 hfinite hy
    · rw [hask]
      exact iff_of_true ⟨hfinite, hfinite'⟩ ⟨hx, fun _ => hy, fun h => absurd hfinite h⟩
    · rw [hask]
      refine iff_of_true (Fault.kind_domain_iff.mpr ?_) ⟨hx, fun _ => hy, fun h => absurd hfinite h⟩
      rw [DomainFault.isWritable, hfinite.isWritable, Number.isWritable_of_not_isHuge hy, Bool.and_self]
  · rw [hask]
    refine Fault.kind_domain_iff.trans ?_
    rw [DomainFault.isWritable, Number.isWritable_of_not_isHuge hx, Bool.true_and]
    exact ⟨fun h => ⟨hx, fun hfinite => absurd hfinite hinfinite, fun _ => h⟩, fun h => h.2.2 hinfinite⟩

theorem answers_point (value : Datum) : Answers Point.IsFinite (point value) ↔ IsManageablePoint value := by
  unfold point IsManageablePoint
  cases hcoordinates : coordinates value with
  | error fault =>
    obtain ⟨cause, rfl⟩ := domain_of_coordinates hcoordinates
    exact Fault.kind_domain_iff
  | ok pair =>
    obtain ⟨x, y⟩ := pair
    dsimp only [bind, Except.bind]
    split
    · exact answers_finitePoint _ _
    · next hnumbers =>
      unfold IsManageablePair
      split
      · next x y => exact absurd rfl (hnumbers x y rfl)
      · exact Fault.kind_domain_iff.trans (Bool.and_eq_true _ _ ▸ Iff.rfl)

def IsManageableHeading : Datum → Prop
  | .number x => x.isWritable = true
  | _ => True

theorem answers_headingNumber (x : Number) :
    Answers (fun x => inRange x = true) (headingNumber x) ↔ x.isWritable = true := by
  unfold headingNumber
  split
  · next h => exact iff_of_true h (Number.isWritable_of_not_isHuge (Number.not_isHuge_of_inRange h))
  · exact Fault.kind_domain_iff

theorem answers_heading (value : Datum) :
    Answers (fun x => inRange x = true) (heading value) ↔ IsManageableHeading value := by
  cases value with
  | number x => exact answers_headingNumber x
  | _ => exact iff_of_true rfl trivial

theorem answers_pen (value : Datum) : Answers (fun p => value.text? = some p.text) (pen value) := by
  unfold pen
  split
  · rfl
  · split
    · rfl
    · next s hs =>
      split
      · next p hp => exact hs.trans (congrArg some (Pen.ofText?_eq_some_iff.mp hp))
      · refine Fault.kind_domain_iff.mpr ?_
        cases value <;> first | rfl | cases hs

theorem answers_turtle (positionValue headingValue penValue : Datum) :
    Answers Turtle.Sound (turtle positionValue headingValue penValue) ↔
      IsManageablePoint positionValue ∧
        ((∃ p, point positionValue = .ok p) → IsManageableHeading headingValue) := by
  rw [answers_iff_of_ok fun t => sound_of_turtle, ← answers_point positionValue, ← answers_heading headingValue]
  have hpen := answers_pen penValue
  unfold turtle
  cases hp : point positionValue with
  | error fault =>
    refine ⟨fun h => ⟨h, ?_⟩, fun h => h.1⟩
    rintro ⟨p, hok⟩
    cases hok
  | ok p =>
    cases hx : heading headingValue with
    | error fault => exact ⟨fun h => ⟨isFinite_of_point hp, fun _ => h⟩, fun h => h.2 ⟨p, rfl⟩⟩
    | ok x =>
      refine iff_of_true ?_ ⟨isFinite_of_point hp, fun _ => inRange_of_heading hx⟩
      cases hq : pen penValue with
      | error fault => rw [hq] at hpen; exact hpen
      | ok q => trivial

def IsManageableDistance : Datum → Prop
  | .number x => ¬x.IsHuge
  | value => value.isWritable = true

theorem distance_number {r : Except Fault Bool} (h : finite x = r) :
    distance (.number x) =
      r.bind fun answer => if answer then .ok x else .error (.domain (.distanceNotFinite x)) := by
  rw [← h]
  rfl

/-- A datum that a turn gets along with, at a heading. Two integers are added as they are, and only their sum may be
shown. -/
def IsManageableTurn (heading : Number) : Datum → Prop
  | .number (.int k) =>
    match heading with
    | .int n => (Number.int (n + k)).isWritable = true
    | .float _ => ¬(Number.int k).IsHuge
  | _ => True

end Validate

open Validate

namespace Transition

variable {t : Turtle}

theorem answers_moveBy [Platform] {x : Number} {s : Surface} (ht : t.Sound) (hs : s.onlyRecorders = true)
    (hx : x.IsFinite) :
    Answers (fun _ => True) (moveBy x t s).result := by
  rcases Motion.travel_cases hx ht.inRange ht.position with ⟨stop, hstop⟩ | hleaves
  · rw [moveBy_of_travel hs hstop]
    trivial
  · rw [moveBy_eq, hleaves]
    exact Motion.kind_leavesPlane hx ht.position

theorem answers_turned_of_add {x h : Number} (hadd : t.heading.add? x = some h) :
    Answers (fun _ => True) (turned x t) ↔ h.isWritable = true := by
  rw [← answers_headingNumber h]
  unfold turned
  rw [hadd]
  dsimp only
  cases hcheck : headingNumber h with
  | ok y =>
    have hok : Validate.heading (.number h) = .ok y := hcheck
    exact iff_of_true trivial (inRange_of_heading hok)
  | error fault => exact Iff.rfl

theorem answers_turned {x : Number} (ht : t.Sound) :
    Answers (fun _ => True) (turned x t) ↔ IsManageableTurn t.heading (.number x) := by
  have hheading := Number.toBinary64?_of_not_isHuge (Number.not_isHuge_of_inRange ht.inRange)
  cases x with
  | float x =>
    have hadd : t.heading.add? (.float x) = some (.float (t.heading.nearest.add x)) := by
      cases hkind : t.heading with
      | float y => rfl
      | int n =>
        rw [hkind] at hheading
        simp only [Number.add?, Number.combine?, hheading]
        rfl
    exact iff_of_true ((answers_turned_of_add hadd).mpr rfl) trivial
  | int k =>
    unfold IsManageableTurn
    cases hkind : t.heading with
    | int n => exact answers_turned_of_add (by rw [hkind]; rfl)
    | float y =>
      by_cases hk : (Number.int k).IsHuge
      · have hadd : t.heading.add? (.int k) = none := by
          rw [hkind]
          simp only [Number.add?, Number.combine?, Number.toBinary64?_of_isHuge hk]
          rfl
        unfold turned
        rw [hadd]
        exact iff_of_false nofun (not_not_intro hk)
      · have hadd : t.heading.add? (.int k) = some (.float (y.add (Number.int k).nearest)) := by
          rw [hkind]
          simp only [Number.add?, Number.combine?, Number.toBinary64?_of_not_isHuge hk]
          rfl
        exact iff_of_true ((answers_turned_of_add hadd).mpr rfl) hk

end Transition

namespace Plan

variable {t : Turtle} {s : Surface}

theorem answers_perform_iff [Platform] (p : Plan) (ht : t.Sound) :
    Answers Turtle.Sound (p.perform t s).result ↔ Answers (fun _ => True) (p.perform t s).result := by
  refine answers_iff_of_ok fun t' hok => ?_
  have hperform : p.perform t s = ⟨.ok t', (p.perform t s).surface⟩ := by rw [← hok]
  exact (p.makes_perform hperform).1.sound ht

theorem build_move [Platform] {d : Datum} {r : Except Fault Number} (h : distance d = r) :
    (Plan.move d).build = r.map Transition.moveBy := by
  rw [← h]
  rfl

theorem answers_move [Platform] (ht : t.Sound) (hs : s.onlyRecorders = true) (d : Datum) :
    Answers Turtle.Sound ((Plan.move d).perform t s).result ↔ IsManageableDistance d := by
  rw [answers_perform_iff _ ht]
  cases d with
  | number x =>
    rcases finite_cases x with ⟨hx, hask⟩ | ⟨hx, hfinite, hask⟩ | ⟨hx, hinfinite, hask⟩
    · rw [perform_of_error (build_move (distance_number hask))]
      exact iff_of_false nofun (not_not_intro hx)
    · rw [perform_of_ok (build_move (distance_number hask))]
      exact iff_of_true (Transition.answers_moveBy ht hs hfinite) hx
    · rw [perform_of_error (build_move (distance_number hask))]
      exact iff_of_true (Fault.kind_domain_iff.mpr (Number.isWritable_of_not_isHuge hx)) hx
  | _ => exact Fault.kind_domain_iff

theorem answers_turn [Platform] (ht : t.Sound) (d : Datum) :
    Answers Turtle.Sound ((Plan.turn d).perform t s).result ↔ IsManageableTurn t.heading d := by
  rw [answers_perform_iff _ ht]
  cases d with
  | number x =>
    have hbuild : (Plan.turn (.number x)).build = .ok (Transition.turnBy x) := rfl
    rw [perform_of_ok hbuild, Transition.turnBy_eq_quiet]
    exact Transition.answers_turned ht
  | _ => exact iff_of_true rfl trivial

end Plan

namespace Command

def IsManageable (heading : Number) (c : Command) : Prop :=
  match c.verb? with
  | some .move => IsManageableDistance c.amount
  | some .turn => IsManageableTurn heading c.amount
  | _ => True

theorem answers_execute [Platform] {t : Turtle} {s : Surface} (ht : t.Sound) (hs : s.onlyRecorders = true)
    (c : Command) :
    Answers Turtle.Sound (c.execute t s).result ↔ c.IsManageable t.heading := by
  rw [Plan.execute_eq_perform]
  unfold Plan.ofCommand IsManageable
  cases c.verb? with
  | none => exact iff_of_true ht trivial
  | some v =>
    cases v with
    | move => exact Plan.answers_move ht hs c.amount
    | turn => exact Plan.answers_turn ht c.amount
    | penUp => exact iff_of_true ⟨ht.heading, ht.position, .inl rfl⟩ trivial
    | penDown => exact iff_of_true ⟨ht.heading, ht.position, .inr rfl⟩ trivial

end Command

/-- When a datum is answered as promised, exactly: by the validators, and as a distance, as a turn and as the value of a
command at every turtle that is reached over recorders. -/
theorem answers_iff [Platform] (value : Datum) :
    (Answers Point.IsFinite (point value) ↔ IsManageablePoint value) ∧
    (Answers (fun x => inRange x = true) (heading value) ↔ IsManageableHeading value) ∧
    Answers (fun p => value.text? = some p.text) (pen value) ∧
    (∀ x q, Answers Turtle.Sound (turtle value x q) ↔
      IsManageablePoint value ∧ ((∃ start, point value = .ok start) → IsManageableHeading x)) ∧
    ∀ {p x q : Datum} {t₀ t : Turtle} {s₀ s : Surface} {moves : Nat}, turtle p x q = .ok t₀ →
      s₀.onlyRecorders = true → Reaches t₀ s₀ t s moves →
      (Answers Turtle.Sound ((Plan.move value).perform t s).result ↔ IsManageableDistance value) ∧
      (Answers Turtle.Sound ((Plan.turn value).perform t s).result ↔ IsManageableTurn t.heading value) ∧
      ∀ name, Answers Turtle.Sound ((Command.mk name value).execute t s).result ↔
        (Command.mk name value).IsManageable t.heading := by
  refine ⟨answers_point value, answers_heading value, answers_pen value, answers_turtle value, ?_⟩
  intro p x q t₀ t s₀ s moves hstart hs₀ hreach
  obtain ⟨hadvance, cs, rfl⟩ := hreach.advances
  have ht := hadvance.sound (sound_of_turtle hstart)
  have hs := Surface.onlyRecorders_drawn hs₀ cs
  exact ⟨Plan.answers_move ht hs value, Plan.answers_turn ht value,
    fun name => Command.answers_execute ht hs ⟨name, value⟩⟩

/-- An integer that is huge, but far from too long to be written. -/
def hugeSteps : Number := .int (Nat.pow 10 400)

theorem isHuge_hugeSteps : hugeSteps.IsHuge := by
  unfold hugeSteps Number.IsHuge
  decide +kernel

open Standard

/-- It cannot be a distance. As a turn it is refused as promised, since a heading that is an integer takes it without
rounding. -/
theorem answers_hugeSteps :
    ¬Answers Turtle.Sound ((Plan.move (.number hugeSteps)).perform ⟨⟨.int 3, .int 4⟩, .int 90, .down⟩
      (.recorder .empty)).result ∧
    Answers Turtle.Sound ((Plan.turn (.number hugeSteps)).perform ⟨⟨.int 3, .int 4⟩, .int 90, .down⟩
      (.recorder .empty)).result := by
  have hstart : turtle (.list [.int 3, .int 4]) (.int 90) (.text "up") = .ok ⟨⟨.int 3, .int 4⟩, .int 90, .up⟩ := by
    apply ok_of_toOption
    decide +kernel
  have hreach : Reaches ⟨⟨.int 3, .int 4⟩, .int 90, .up⟩ (.recorder .empty) ⟨⟨.int 3, .int 4⟩, .int 90, .down⟩
      (.recorder .empty) 0 := .act (.setPen .down) .start rfl
  obtain ⟨-, -, -, -, hreached⟩ := answers_iff (.number hugeSteps)
  obtain ⟨hmove, hturn, -⟩ := hreached hstart rfl hreach
  have hshown : IsManageableTurn (.int 90) (.number hugeSteps) := by
    unfold hugeSteps IsManageableTurn
    decide +kernel
  have hunasked : ¬IsManageableDistance (.number hugeSteps) := not_not_intro isHuge_hugeSteps
  refine ⟨mt hmove.mp hunasked, ?_⟩
  rw [hturn]
  exact hshown

/-- Nor can it be a coordinate: to ask whether it is finite fails. -/
theorem hugeSteps_not_coordinate : ¬Answers Point.IsFinite (point (.tuple [.number hugeSteps, .int 0])) := by
  rw [answers_point]
  rintro ⟨hsmall, -⟩
  exact hsmall isHuge_hugeSteps

end TurtleGraphics
