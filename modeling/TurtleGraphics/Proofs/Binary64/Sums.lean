import Mathlib.Tactic
import TurtleGraphics.Proofs.Binary64.Exact

/-! Rounded sums. Rounding never takes away more than half of a number, and the sum of two integers of up to 52 bits
is the integer that it should be. -/

namespace TurtleGraphics

namespace Rounding

theorem significant_zero {den : Nat} (h : 0 < den) : significant 0 den = 0 := by
  have hnothing := nearest_mul_self 0 (Nat.mul_pos h (two_pow_pos (excess 0 den)))
  rw [Nat.zero_mul] at hnothing
  rw [significant, hnothing, Nat.zero_mul]

theorem le_two_mul_significant (n : Nat) : n ≤ 2 * significant n 1 := by
  rcases Nat.eq_zero_or_pos n with rfl | hn
  · exact Nat.zero_le _
  · have hexcess : Nat.pow 2 (excess n 1) ≤ n := by
      refine Nat.le_trans (two_pow_le ?_) (Nat.log2_self_le (Nat.pos_iff_ne_zero.mp hn))
      unfold excess
      rw [Nat.div_one]
      exact Nat.sub_le _ _
    unfold significant
    rw [Nat.one_mul]
    generalize hp : Nat.pow 2 (excess n 1) = p at hexcess
    have hpos : 0 < p := hp ▸ two_pow_pos _
    -- What is kept is the quotient at least, and one more would at most double it.
    have hquotient : 1 ≤ n / p := (Nat.one_le_div_iff hpos).mpr hexcess
    calc n ≤ (n / p + 1) * p := Nat.le_of_lt (Nat.lt_mul_of_div_lt (Nat.lt_succ_self _) hpos)
      _ ≤ 2 * (n / p) * p := Nat.mul_le_mul_right p (by omega)
      _ ≤ 2 * (nearest n p * p) := by
        rw [Nat.mul_assoc]
        exact Nat.mul_le_mul_left 2 (Nat.mul_le_mul_right p (le_nearest n p))

end Rounding

namespace Binary64

theorem natAbs_lt_of_units {x : Binary64} {v : Int} (h : x.units? = some v) : v.natAbs < overflowUnits := by
  cases x with
  | notANumber => cases h
  | infinite s => cases h
  | finite s m =>
    cases h
    rw [Magnitude.natAbs_signed]
    exact m.representable.1

theorem natAbs_le_of_ofUnits {u v : Int} (h : (ofUnits u).units? = some v) : u.natAbs ≤ 2 * v.natAbs := by
  unfold ofUnits ofRatio at h
  split at h
  · cases h
    rw [Magnitude.natAbs_signed]
    exact Rounding.le_two_mul_significant u.natAbs
  · cases h

theorem natAbs_le_of_ofInt {n v : Int} (h : (ofInt n).units? = some v) : n.natAbs * unitsPerOne ≤ 2 * v.natAbs := by
  have := natAbs_le_of_ofUnits h
  rwa [Int.natAbs_mul, Int.natAbs_natCast] at this

theorem natAbs_le_of_add {x y : Binary64} {u v w : Int} (hx : x.units? = some u) (hy : y.units? = some v)
    (h : (x.add y).units? = some w) : (u + v).natAbs ≤ 2 * w.natAbs := by
  cases x with
  | notANumber => cases hx
  | infinite s => cases hx
  | finite s m =>
    cases y with
    | notANumber => cases hy
    | infinite s => cases hy
    | finite t n =>
      cases hx
      cases hy
      unfold add at h
      by_cases htotal : m.signed s + n.signed t = 0
      · rw [htotal]
        exact Nat.zero_le _
      · simp only [htotal, ↓reduceIte] at h
        exact natAbs_le_of_ofUnits h

/-- A sum that can be represented is not rounded. -/
theorem units?_add {x y : Binary64} {u v : Int} (hx : x.units? = some u) (hy : y.units? = some v)
    (h : Representable (u + v).natAbs) : (x.add y).units? = some (u + v) := by
  cases x with
  | notANumber => cases hx
  | infinite s => cases hx
  | finite s m =>
    cases y with
    | notANumber => cases hy
    | infinite s => cases hy
    | finite t n =>
      cases hx
      cases hy
      unfold add
      by_cases htotal : m.signed s + n.signed t = 0
      · simp only [htotal, ↓reduceIte]
        cases (s && t) <;> rfl
      · simp only [htotal, ↓reduceIte]
        exact units?_ofUnits h

theorem ofInt_zero : ofInt 0 = .zero false := by
  have hzero : Representable (0 : Int).natAbs := Magnitude.zero.representable
  unfold ofInt
  rw [Int.zero_mul, ofUnits_of_representable hzero]
  rfl

/-- An integer of at most 53 bits is kept as it is. -/
theorem ofInt_of_small {n : Int} (h : n.natAbs < Nat.pow 2 53) :
    ∃ m : Magnitude, ofInt n = .finite (n < 0) m ∧ m.signed (n < 0) = n * unitsPerOne := by
  have hrepresentable : Representable (n * unitsPerOne).natAbs := by
    rw [Int.natAbs_mul, Int.natAbs_natCast]
    exact .of_small h
  have hsign : (n * unitsPerOne < 0) = (n < 0) := by
    have hpos : (0 : Int) < unitsPerOne := by exact_mod_cast unitsPerOne_pos
    conv_lhs => rw [← Int.zero_mul unitsPerOne]
    exact propext (Int.mul_lt_mul_right hpos)
  have hform := ofUnits_of_representable hrepresentable
  have hunits := units?_ofUnits hrepresentable
  rw [hform] at hunits
  simp only [hsign] at hform hunits
  exact ⟨_, hform, Option.some.inj hunits⟩

theorem units?_ofInt {n : Int} (h : n.natAbs < Nat.pow 2 53) : (ofInt n).units? = some (n * unitsPerOne) := by
  obtain ⟨m, hform, hsigned⟩ := ofInt_of_small h
  rw [hform, units?, hsigned]

/-- No bit of a sum of small integers is lost, and a sum of zero has no sign. -/
theorem add_ofInt {m n : Int} (hm : m.natAbs < Nat.pow 2 52) (hn : n.natAbs < Nat.pow 2 52) :
    (ofInt m).add (ofInt n) = ofInt (m + n) := by
  have hpow : Nat.pow 2 52 < Nat.pow 2 53 := by decide
  obtain ⟨a, ha, hsa⟩ := ofInt_of_small (Nat.lt_trans hm hpow)
  obtain ⟨b, hb, hsb⟩ := ofInt_of_small (Nat.lt_trans hn hpow)
  rw [ha, hb]
  unfold add
  simp only [hsa, hsb]
  rw [← Int.add_mul]
  by_cases htotal : m + n = 0
  · have hsigns : (decide (m < 0) && decide (n < 0)) = false := by
      rw [Bool.and_eq_false_iff, decide_eq_false_iff_not, decide_eq_false_iff_not]
      omega
    rw [htotal, Int.zero_mul, if_pos rfl, hsigns, ofInt_zero]
  · have hpos : (unitsPerOne : Int) ≠ 0 := by exact_mod_cast unitsPerOne_pos.ne'
    rw [if_neg (Int.mul_ne_zero htotal hpos)]
    rfl

end Binary64

end TurtleGraphics
