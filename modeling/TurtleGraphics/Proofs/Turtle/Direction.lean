import Mathlib.Tactic
import TurtleGraphics.Proofs.Script.Replay

/-! Directions. A heading in range is a small angle, and a small angle has a cosine and a sine, whatever the kind of
the number. -/

namespace TurtleGraphics

namespace Binary64

theorem finite_of_units {x : Binary64} {u : Int} (h : x.units? = some u) :
    ∃ s m, x = .finite s m ∧ m.units = u.natAbs := by
  cases x with
  | notANumber => cases h
  | infinite s => cases h
  | finite s m =>
    cases h
    exact ⟨s, m, rfl, (m.natAbs_signed s).symm⟩

/-- The factor from degrees to radians is below one. -/
theorem units?_radiansPerDegree : ∃ u, radiansPerDegree.units? = some u ∧ u.natAbs ≤ unitsPerOne := by
  have hsmall : radiansPerDegree.units?.map (fun u => decide (u.natAbs ≤ unitsPerOne)) = some true := by
    decide +kernel
  obtain ⟨u, hu, hle⟩ := Option.map_eq_some_iff.mp hsmall
  exact ⟨u, hu, of_decide_eq_true hle⟩

/-- A heading in range, times a factor of at most one, does not overflow. -/
theorem isFinite_mul {x y : Binary64} {u v : Int} (hx : x.units? = some u) (hy : y.units? = some v)
    (hu : u.natAbs ≤ 360 * unitsPerOne) (hv : v.natAbs ≤ unitsPerOne) : (x.mul y).isFinite = true := by
  obtain ⟨s, m, rfl, hm⟩ := finite_of_units hx
  obtain ⟨t, n, rfl, hn⟩ := finite_of_units hy
  have hquotient : m.units * n.units / unitsPerOne ≤ 360 * unitsPerOne := by
    rw [hm, hn]
    calc u.natAbs * v.natAbs / unitsPerOne ≤ u.natAbs * unitsPerOne / unitsPerOne :=
          Nat.div_le_div_right (Nat.mul_le_mul_left _ hv)
      _ = u.natAbs := Nat.mul_div_cancel _ unitsPerOne_pos
      _ ≤ 360 * unitsPerOne := hu
  have hroom : 2 * (360 * unitsPerOne) + 1 < overflowUnits := by decide +kernel
  have hfits : Rounding.significant (m.units * n.units) unitsPerOne < overflowUnits := by
    have hle := Rounding.significant_le (m.units * n.units) unitsPerOne
    omega
  exact (isFinite_ofRatio_iff (s != t) _ _).mpr hfits

end Binary64

namespace Number

theorem units?_nearest_of_inRange {x : Number} (h : Validate.inRange x = true) :
    ∃ u, x.nearest.units? = some u ∧ u.natAbs ≤ 360 * unitsPerOne := by
  cases x with
  | float x => exact Validate.units_of_inRange h
  | int n =>
    have hn := Validate.natAbs_le_of_inRange h
    refine ⟨n * unitsPerOne, Binary64.units?_ofInt (Nat.lt_of_le_of_lt hn (by decide)), ?_⟩
    rw [Int.natAbs_mul, Int.natAbs_natCast]
    exact Nat.mul_le_mul_right unitsPerOne hn

end Number

namespace Motion

variable [Platform] {heading : Number}

theorem exists_direction (h : Validate.inRange heading = true) :
    ∃ d, direction heading = .ok d ∧ d.cosine.isFinite = true ∧ d.sine.isFinite = true := by
  obtain ⟨u, hu, hle⟩ := Number.units?_nearest_of_inRange h
  obtain ⟨v, hv, hone⟩ := Binary64.units?_radiansPerDegree
  have hangle := Binary64.isFinite_mul hu hv hle hone
  have hradians : radians heading = .ok (heading.nearest.mul .radiansPerDegree) := by
    unfold radians
    rw [binary64_of_isFinite (Number.isFinite_of_inRange h)]
    rfl
  obtain ⟨s, m, hfinite, -⟩ := Binary64.finite_of_units (Binary64.isFinite_iff.mp hangle).choose_spec
  refine ⟨⟨_, _⟩, ?_, Platform.isFinite_cosine hangle, Platform.isFinite_sine hangle⟩
  unfold direction
  rw [hradians, hfinite]
  rfl

/-- From a turtle's state, a move of finite length ends somewhere or leaves the plane, and nothing else. -/
theorem travel_cases {distance : Number} {start : Point} (hdistance : distance.IsFinite)
    (hheading : Validate.inRange heading = true) (hstart : start.IsFinite) :
    (∃ stop, travel distance heading start = .ok stop) ∨
      travel distance heading start =
        .error (.domain (.leavesPlane (.number distance) (.number start.x) (.number start.y))) := by
  obtain ⟨d, hd, -⟩ := exists_direction hheading
  unfold travel
  rw [hd, binary64_of_isFinite hdistance, binary64_of_isFinite hstart.x, binary64_of_isFinite hstart.y]
  dsimp only [bind, Except.bind]
  unfold arrive
  split
  · exact .inl ⟨_, rfl⟩
  · exact .inr rfl

end Motion

end TurtleGraphics
