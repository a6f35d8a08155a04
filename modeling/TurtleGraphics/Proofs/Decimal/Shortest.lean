import Mathlib.Tactic
import TurtleGraphics.Decimal.Shortest
import TurtleGraphics.Proofs.Binary64.Exact

/-! The decimal that is chosen for a magnitude reads back as the magnitude. All its digits do, so the search for fewer
digits ends with some that do. -/

namespace TurtleGraphics

namespace Rounding

theorem excess_mul_right (num den : Nat) {k : Nat} (h : 0 < k) : excess (num * k) (den * k) = excess num den := by
  unfold excess
  rw [Nat.mul_div_mul_right num den h]

/-- The significant part depends on the quotient alone. -/
theorem significant_mul_right (num den : Nat) {k : Nat} (h : 0 < k) :
    significant (num * k) (den * k) = significant num den := by
  unfold significant
  rw [excess_mul_right num den h, Nat.mul_right_comm den k, nearest_mul_right _ _ h]

end Rounding

namespace Binary64

theorem ofRatio_mul_right (negative : Bool) (num den : Nat) {k : Nat} (h : 0 < k) :
    ofRatio negative (num * k) (den * k) = ofRatio negative num den := by
  unfold ofRatio
  simp only [Rounding.significant_mul_right num den h]

/-- The units of a magnitude, as a quotient, are rounded to the magnitude. -/
theorem ofRatio_units (negative : Bool) (m : Magnitude) {k : Nat} (h : 0 < k) :
    ofRatio negative (m.units * k) k = .finite negative m := by
  have hone := ofRatio_mul_right negative m.units 1 h
  rw [Nat.one_mul] at hone
  rw [hone]
  unfold ofRatio
  simp only [m.representable.significant_eq, m.representable.1, ↓reduceDIte]

theorem ofDecimal_of_zero (negative : Bool) {d : Decimal} (h : d.coefficient = 0) :
    ofDecimal negative d = .zero negative := by
  unfold ofDecimal
  rw [if_pos (.inl h)]

theorem ofDecimal_of_nonzero (negative : Bool) {d : Decimal} (hzero : d.coefficient ≠ 0)
    (hminute : d.isMinute = false) (hhuge : d.isHuge = false) :
    ofDecimal negative d = .ofRatio negative d.toRatio.1 d.toRatio.2 := by
  have hvisible : ¬(d.coefficient = 0 ∨ d.isMinute = true) := by
    rw [hminute]
    simp [hzero]
  have hbounded : ¬d.isHuge = true := by
    rw [hhuge]
    decide
  unfold ofDecimal
  rw [if_neg hvisible, if_neg hbounded]

theorem ofRatio_sign {num den : Nat} {m : Magnitude} (negative : Bool)
    (h : ofRatio false num den = .finite false m) : ofRatio negative num den = .finite negative m := by
  unfold ofRatio at h ⊢
  by_cases hlt : Rounding.significant num den < overflowUnits
  · rw [dif_pos hlt] at h ⊢
    rw [(finite.inj h).2]
  · rw [dif_neg hlt] at h
    exact nomatch h

/-- The sign of a decimal is that of its number. -/
theorem ofDecimal_sign {d : Decimal} {m : Magnitude} (negative : Bool)
    (h : ofDecimal false d = .finite false m) : ofDecimal negative d = .finite negative m := by
  unfold ofDecimal at h ⊢
  by_cases hzero : d.coefficient = 0 ∨ d.isMinute = true
  · rw [if_pos hzero] at h ⊢
    rw [← (finite.inj h).2]
    rfl
  · rw [if_neg hzero] at h ⊢
    by_cases hhuge : d.isHuge = true
    · rw [if_pos hhuge] at h
      exact nomatch h
    · rw [if_neg hhuge] at h ⊢
      exact ofRatio_sign negative h

/-- Zeros at the end of a coefficient, the last one behind the point, only scale it. -/
theorem ofDecimal_tenths (negative : Bool) (c : Nat) {k : Nat} (hk : k ≤ 400) :
    ofDecimal negative ⟨c * Nat.pow 10 (k + 1), -1⟩ = ofDecimal negative ⟨c, k⟩ := by
  have hpos : 0 < Nat.pow 10 (k + 1) := Nat.pow_pos (by decide)
  by_cases hc : c = 0
  · rw [ofDecimal_of_zero negative (d := ⟨c, k⟩) hc, ofDecimal_of_zero]
    dsimp only
    rw [hc, Nat.zero_mul]
  · have hleft : c * Nat.pow 10 (k + 1) ≠ 0 := Nat.mul_ne_zero hc (Nat.pos_iff_ne_zero.mp hpos)
    rw [ofDecimal_of_nonzero, ofDecimal_of_nonzero]
    · have hten : c * Nat.pow 10 (k + 1) * unitsPerOne = c * Nat.pow 10 k * unitsPerOne * 10 := by
        simp only [Nat.pow_eq, pow_succ]
        ring
      have hright : Decimal.toRatio ⟨c, k⟩ = (c * Nat.pow 10 k * unitsPerOne, 1) := by
        unfold Decimal.toRatio
        rw [if_pos (Int.natCast_nonneg k)]
        rfl
      have htenth : Decimal.toRatio ⟨c * Nat.pow 10 (k + 1), -1⟩ = (c * Nat.pow 10 k * unitsPerOne * 10, 1 * 10) := by
        unfold Decimal.toRatio
        have hneg : ¬(0 : Int) ≤ -1 := by decide
        dsimp only
        rw [if_neg hneg, hten]
        rfl
      rw [hright, htenth]
      exact ofRatio_mul_right negative _ 1 (by decide)
    · exact hc
    · unfold Decimal.isMinute
      exact decide_eq_false (by dsimp only; omega)
    · unfold Decimal.isHuge
      exact decide_eq_false (by dsimp only; omega)
    · exact hleft
    · unfold Decimal.isMinute
      exact decide_eq_false (by dsimp only; omega)
    · rfl

end Binary64

namespace Decimal

theorem units_eq_zero_iff {m : Magnitude} : m.units = 0 ↔ m = .zero :=
  ⟨fun h => Magnitude.ext h, fun h => h ▸ rfl⟩

theorem coefficient_exact (m : Magnitude) : ∃ b, b = 1074 ∧ (exact m).coefficient = m.units * Nat.pow 5 b :=
  ⟨_, rfl, rfl⟩

/-- As many digits as a unit has places are enough to be told from zero. -/
theorem isMinute_exact {m : Magnitude} (h : m.units ≠ 0) : (exact m).isMinute = false := by
  obtain ⟨b, hb, hcoefficient⟩ := coefficient_exact m
  rw [Nat.pow_eq] at hcoefficient
  have hpow : 2 ^ b ≤ m.units * 5 ^ b :=
    calc 2 ^ b ≤ 5 ^ b := Nat.pow_le_pow_left (by decide) b
      _ ≤ m.units * 5 ^ b := Nat.le_mul_of_pos_left _ (Nat.pos_of_ne_zero h)
  have hlog : b ≤ (m.units * 5 ^ b).log2 := (Nat.le_log2 (by positivity)).mpr hpow
  unfold isMinute
  rw [hcoefficient]
  apply decide_eq_false
  have hexponent : (exact m).exponent = -1074 := rfl
  omega

theorem readsAs_exact (m : Magnitude) : ReadsAs m (exact m) := by
  unfold ReadsAs
  by_cases h : m.units = 0
  · rw [Binary64.ofDecimal_of_zero, units_eq_zero_iff.mp h]
    · rfl
    · unfold exact
      dsimp only
      rw [h, Nat.zero_mul]
  · obtain ⟨b, hb, hcoefficient⟩ := coefficient_exact m
    have hunit : unitsPerOne = Nat.pow 2 b := by
      obtain ⟨c, -, hc, -, hunit, -⟩ := bounds_eq
      rw [hunit, hc, hb]
    have hratio : (exact m).toRatio = (m.units * Nat.pow 10 b, Nat.pow 10 b) := by
      have hten : m.units * Nat.pow 5 b * unitsPerOne = m.units * Nat.pow 10 b := by
        rw [hunit, Nat.mul_assoc, Nat.pow_eq, Nat.pow_eq, Nat.pow_eq, ← Nat.mul_pow]
      have hexponent : (exact m).exponent = -1074 := rfl
      have hneg : ¬(0 : Int) ≤ -1074 := by decide
      have hplaces : (-(-1074) : Int).toNat = b := by
        rw [hb]
        rfl
      unfold toRatio
      rw [hcoefficient, hexponent, if_neg hneg, hten, hplaces]
    have hne : (exact m).coefficient ≠ 0 := by
      rw [hcoefficient]
      exact Nat.mul_ne_zero h (Nat.pos_iff_ne_zero.mp (Nat.pow_pos (by decide)))
    rw [Binary64.ofDecimal_of_nonzero false hne (isMinute_exact h) rfl, hratio]
    exact Binary64.ofRatio_units false m (Nat.pow_pos (by decide))

theorem readsAs_search (m : Magnitude) (tries count : Nat) : ReadsAs m (search m tries count) := by
  -- A candidate is only taken when it reads back, and the last try takes every digit.
  induction tries generalizing count with
  | zero => exact readsAs_exact m
  | succ tries ih =>
    unfold search
    cases hfind : (candidates m count).find? (ReadsAs m ·) with
    | none => exact ih (count + 1)
    | some d => exact of_decide_eq_true (List.find?_some (p := (ReadsAs m ·)) hfind)

theorem readsAs_shortest (m : Magnitude) : ReadsAs m (shortest m) := readsAs_search m 17 1

/-- The chosen decimal, with either sign, reads back as the number. -/
theorem ofDecimal_shortest (negative : Bool) (m : Magnitude) :
    Binary64.ofDecimal negative (shortest m) = .finite negative m :=
  Binary64.ofDecimal_sign negative (readsAs_shortest m)

end Decimal

end TurtleGraphics
