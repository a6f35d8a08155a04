import Mathlib.Tactic
import TurtleGraphics.Number

/-! Rounding keeps what can be represented. The floor of a finite number is an integer that keeps its value. -/

namespace TurtleGraphics

namespace Rounding

theorem two_pow_add (a b : Nat) : Nat.pow 2 (a + b) = Nat.pow 2 a * Nat.pow 2 b := Nat.pow_add 2 a b

theorem two_pow_pos (k : Nat) : 0 < Nat.pow 2 k := Nat.two_pow_pos k

theorem two_pow_le {a b : Nat} (h : a ≤ b) : Nat.pow 2 a ≤ Nat.pow 2 b := Nat.pow_le_pow_right (by decide) h

theorem two_pow_dvd {a b : Nat} (h : a ≤ b) : Nat.pow 2 a ∣ Nat.pow 2 b := Nat.pow_dvd_pow 2 h

/-- A number that 53 bits hold loses no bit but zeros. -/
theorem excess_le {m : Nat} (hm : m < Nat.pow 2 53) (k : Nat) : excess (m * Nat.pow 2 k) 1 ≤ k := by
  have hlt : m * Nat.pow 2 k < 2 ^ (53 + k) := by
    rw [pow_add]
    exact Nat.mul_lt_mul_of_pos_right hm (two_pow_pos k)
  unfold excess
  rw [Nat.div_one]
  by_cases hz : m * Nat.pow 2 k = 0
  · rw [hz, Nat.log2_zero]
    exact Nat.zero_le k
  · have := (Nat.log2_lt hz).mpr hlt
    omega

theorem significant_form_self {m : Nat} (hm : m < Nat.pow 2 53) (k : Nat) :
    significant (m * Nat.pow 2 k) 1 = m * Nat.pow 2 k := by
  obtain ⟨j, hj⟩ := Nat.exists_eq_add_of_le (excess_le hm k)
  have hsplit : m * Nat.pow 2 k = m * Nat.pow 2 j * Nat.pow 2 (excess (m * Nat.pow 2 k) 1) := by
    conv_lhs => rw [hj]
    simp only [Nat.pow_eq, pow_add]
    ring
  unfold significant
  generalize excess (m * Nat.pow 2 k) 1 = e at hsplit
  rw [Nat.one_mul, hsplit, nearest_mul_self (m * Nat.pow 2 j) (two_pow_pos e)]

end Rounding

/-- The two bounds of magnitudes as powers of two, with exponents that stay unevaluated. -/
theorem bounds_eq : ∃ b c, b = 1074 ∧ c = 2098 ∧ unitsPerOne = Nat.pow 2 b ∧ overflowUnits = Nat.pow 2 c :=
  ⟨_, _, rfl, rfl, rfl, rfl⟩

namespace Representable

theorem significant_eq {n : Nat} (h : Representable n) : Rounding.significant n 1 = n := by
  obtain ⟨-, m, k, hm, rfl⟩ := h
  exact Rounding.significant_form_self hm k

/-- A whole number of at most 53 bits is representable. -/
theorem of_small {n : Nat} (h : n < Nat.pow 2 53) : Representable (n * unitsPerOne) := by
  obtain ⟨b, c, hb, hc, hunit, hover⟩ := bounds_eq
  refine ⟨?_, n, b, h, by rw [hunit]⟩
  rw [hunit, hover]
  calc n * Nat.pow 2 b < Nat.pow 2 53 * Nat.pow 2 b := Nat.mul_lt_mul_of_pos_right h (Rounding.two_pow_pos b)
    _ = Nat.pow 2 (53 + b) := (Rounding.two_pow_add 53 b).symm
    _ ≤ Nat.pow 2 c := Rounding.two_pow_le (by omega)

end Representable

namespace Magnitude

theorem natAbs_signed (m : Magnitude) (negative : Bool) : (m.signed negative).natAbs = m.units := by
  cases negative <;> simp [signed]

/-- A magnitude has no fraction, or it is below `2 ^ 52` and so is its floor. -/
theorem whole_or_small (m : Magnitude) :
    unitsPerOne ∣ m.units ∨ m.units < Nat.pow 2 52 * unitsPerOne := by
  obtain ⟨b, -, -, -, hunit, -⟩ := bounds_eq
  obtain ⟨-, c, k, hc, hu⟩ := m.representable
  rw [hu, hunit]
  rcases Nat.lt_or_ge k b with hk | hk
  · right
    calc c * Nat.pow 2 k < Nat.pow 2 53 * Nat.pow 2 k := Nat.mul_lt_mul_of_pos_right hc (Rounding.two_pow_pos k)
      _ = Nat.pow 2 (53 + k) := (Rounding.two_pow_add 53 k).symm
      _ ≤ Nat.pow 2 (52 + b) := Rounding.two_pow_le (by omega)
      _ = Nat.pow 2 52 * Nat.pow 2 b := Rounding.two_pow_add 52 b
  · left
    exact Dvd.dvd.mul_left (Rounding.two_pow_dvd hk) c

/-- The floor of a finite number, counted in units, is representable. -/
theorem representable_floor (m : Magnitude) (negative : Bool) :
    Representable ((m.signed negative / (unitsPerOne : Int)).natAbs * unitsPerOne) := by
  have hpos : (0 : Int) < unitsPerOne := by exact_mod_cast unitsPerOne_pos
  rcases m.whole_or_small with h | h
  · have hdvd : (unitsPerOne : Int) ∣ m.signed negative := by
      rw [Int.natCast_dvd, natAbs_signed]
      exact h
    have hcancel : (m.signed negative / (unitsPerOne : Int)).natAbs * unitsPerOne = m.units := by
      have := congrArg Int.natAbs (Int.ediv_mul_cancel hdvd)
      rwa [Int.natAbs_mul, Int.natAbs_natCast, natAbs_signed] at this
    rw [hcancel]
    exact m.representable
  · apply Representable.of_small
    have habs := m.natAbs_signed negative
    have hlow : -(Nat.pow 2 52 : Int) ≤ m.signed negative / (unitsPerOne : Int) := by
      rw [Int.le_ediv_iff_mul_le hpos]
      zify at h habs
      have := neg_abs_le (m.signed negative)
      push_cast at *
      linarith
    have hhigh : m.signed negative / (unitsPerOne : Int) < (Nat.pow 2 52 : Int) := by
      rw [Int.ediv_lt_iff_lt_mul hpos]
      zify at h habs
      have := le_abs_self (m.signed negative)
      push_cast at *
      linarith
    have : Nat.pow 2 52 < Nat.pow 2 53 := by decide
    omega

end Magnitude

namespace Binary64

theorem ofUnits_of_representable {u : Int} (h : Representable u.natAbs) :
    ofUnits u = .finite (u < 0) ⟨u.natAbs, h⟩ := by
  unfold ofUnits ofRatio
  simp only [h.significant_eq, h.1, ↓reduceDIte]

theorem units?_ofUnits {u : Int} (h : Representable u.natAbs) : (ofUnits u).units? = some u := by
  rw [ofUnits_of_representable h, units?, Magnitude.signed]
  by_cases hu : u < 0
  · simp only [hu, decide_true, ↓reduceIte, Option.some.injEq]
    omega
  · simp only [hu, decide_false, Bool.false_eq_true, ↓reduceIte, Option.some.injEq]
    omega

/-- The floor of a finite number keeps its value when it is made binary64 again. -/
theorem units?_ofInt_floor {x : Binary64} {n : Int} (h : x.floor? = some n) :
    (ofInt n).units? = some (n * unitsPerOne) := by
  obtain ⟨u, hu, rfl⟩ := Option.map_eq_some_iff.mp h
  apply units?_ofUnits
  rw [Int.natAbs_mul, Int.natAbs_natCast]
  cases x with
  | finite s m =>
    cases hu
    exact m.representable_floor s
  | notANumber => cases hu
  | infinite s => cases hu

end Binary64

end TurtleGraphics
