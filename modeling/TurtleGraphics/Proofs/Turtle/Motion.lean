import Mathlib.Tactic
import TurtleGraphics.Proofs.Binary64.Exact
import TurtleGraphics.Turtle.Motion

/-! Points that turtles can stand on. Validated points are finite, and a move arrives at integers that lose nothing
as binary64 numbers. -/

namespace TurtleGraphics

namespace Number

/-- A number that arithmetic can take: it has a binary64 number, and that is finite. -/
def IsFinite (x : Number) : Prop := ∃ b, x.toBinary64? = some b ∧ b.isFinite = true

/-- An integer that equals its binary64 number. -/
def IsExact (x : Number) : Prop := ∃ n : Int, x = .int n ∧ (Binary64.ofInt n).units? = some (n * unitsPerOne)

theorem isFinite?_eq_true_iff {x : Number} : x.isFinite? = some true ↔ x.IsFinite := by
  simp only [isFinite?, IsFinite, Option.map_eq_some_iff]

theorem IsExact.isFinite {x : Number} (h : x.IsExact) : x.IsFinite := by
  obtain ⟨n, rfl, hn⟩ := h
  have hfin : (Binary64.ofInt n).isFinite = true := Binary64.isFinite_iff.mpr ⟨_, hn⟩
  exact ⟨Binary64.ofInt n, by simp only [toBinary64?, Binary64.ofInt?, hfin, ↓reduceIte], hfin⟩

theorem IsFinite.place {x : Number} (h : x.IsFinite) : ∃ u, x.place? = some (.at u) := by
  obtain ⟨b, hb, hfin⟩ := h
  cases x with
  | int n => exact ⟨n * unitsPerOne, rfl⟩
  | float y =>
    cases hb
    cases b with
    | notANumber => cases hfin
    | infinite s => cases hfin
    | finite s m => exact ⟨m.signed s, rfl⟩

theorem IsFinite.equals_self {x : Number} (h : x.IsFinite) : x.equals x = true := by
  obtain ⟨u, hu⟩ := h.place
  simp [equals, hu]

theorem le_iff {x y : Number} :
    x.le y = true ↔ ∃ p q, x.place? = some p ∧ y.place? = some q ∧ p.le q = true := by
  unfold le
  cases x.place? with
  | none => simp
  | some p =>
    cases y.place? with
    | none => simp
    | some q => simp

theorem isExact_floor {x : Binary64} {n : Int} (h : x.floor? = some n) : (Number.int n).IsExact :=
  ⟨n, rfl, Binary64.units?_ofInt_floor h⟩

end Number

namespace Point

structure IsFinite (p : Point) : Prop where
  x : p.x.IsFinite
  y : p.y.IsFinite

structure IsExact (p : Point) : Prop where
  x : p.x.IsExact
  y : p.y.IsExact

theorem IsExact.isFinite {p : Point} (h : p.IsExact) : p.IsFinite := ⟨h.x.isFinite, h.y.isFinite⟩

end Point

namespace Validate

theorem finite_eq_ok_iff {x : Number} {b : Bool} : finite x = .ok b ↔ x.isFinite? = some b := by
  unfold finite
  cases x.isFinite? <;> simp

theorem finitePoint_of_isFinite {p : Point} (h : p.IsFinite) : finitePoint p = .ok p := by
  have hx := finite_eq_ok_iff.mpr (Number.isFinite?_eq_true_iff.mpr h.x)
  have hy := finite_eq_ok_iff.mpr (Number.isFinite?_eq_true_iff.mpr h.y)
  unfold finitePoint
  rw [hx, hy]
  rfl

theorem isFinite_of_finitePoint {p q : Point} (h : finitePoint p = .ok q) : q = p ∧ p.IsFinite := by
  unfold finitePoint at h
  obtain ⟨a, ha, h⟩ := ok_of_bind_ok h
  cases a with
  | false => cases h
  | true =>
    obtain ⟨b, hb, h⟩ := ok_of_bind_ok h
    cases b with
    | false => cases h
    | true =>
      cases h
      exact ⟨rfl, Number.isFinite?_eq_true_iff.mp (finite_eq_ok_iff.mp ha),
        Number.isFinite?_eq_true_iff.mp (finite_eq_ok_iff.mp hb)⟩

theorem isFinite_of_point {value : Datum} {p : Point} (h : point value = .ok p) : p.IsFinite := by
  unfold point at h
  obtain ⟨⟨x, y⟩, -, h⟩ := ok_of_bind_ok h
  dsimp only at h
  split at h
  · obtain ⟨rfl, hp⟩ := isFinite_of_finitePoint h
    exact hp
  · cases h

end Validate

namespace Motion

/-- A move that ends, ends on integers that equal their binary64 numbers. -/
theorem isExact_of_travel [Platform] {distance heading : Number} {start stop : Point}
    (h : travel distance heading start = .ok stop) : stop.IsExact := by
  unfold travel at h
  obtain ⟨d, -, h⟩ := ok_of_bind_ok h
  obtain ⟨length, -, h⟩ := ok_of_bind_ok h
  obtain ⟨x, -, h⟩ := ok_of_bind_ok h
  obtain ⟨y, -, h⟩ := ok_of_bind_ok h
  unfold arrive at h
  split at h
  · cases h
    exact ⟨Number.isExact_floor ‹_›, Number.isExact_floor ‹_›⟩
  · cases h

/-- So the check of the end of a move never refuses it. -/
theorem finitePoint_of_travel [Platform] {distance heading : Number} {start stop : Point}
    (h : travel distance heading start = .ok stop) : Validate.finitePoint stop = .ok stop :=
  Validate.finitePoint_of_isFinite (isExact_of_travel h).isFinite

end Motion

end TurtleGraphics
