import Mathlib.Tactic
import TurtleGraphics.Proofs.Binary64.Exact

/-! Where integers stop having a binary64 number: half a step past the largest finite one. -/

namespace TurtleGraphics

namespace Rounding

/-- With one bit lost more than there are to spare, a quotient rounds up to the next power of two exactly from half a
step below it. The tie is rounded up, since the last coefficient is odd. -/
theorem nearest_lt_iff {n half : Nat} (hquotient : n / (half * 2) < Nat.pow 2 53) (hhalf : 0 < half) :
    nearest n (half * 2) < Nat.pow 2 53 ↔ n + half < Nat.pow 2 53 * (half * 2) := by
  have hsplit := Nat.div_add_mod n (half * 2)
  have hrest := Nat.mod_lt n (show half * 2 > 0 by omega)
  have heven : Nat.pow 2 53 = 2 * 4503599627370496 := by decide
  rw [heven] at hquotient ⊢
  unfold nearest
  generalize n / (half * 2) = q at hsplit hquotient
  generalize n % (half * 2) = r at hsplit hrest
  -- The only coefficient that matters is the last one; below it both sides hold.
  rcases Nat.lt_or_ge (q + 1) (2 * 4503599627370496) with hbelow | hlast
  · have hstep : half * 2 * (q + 2) ≤ 2 * 4503599627370496 * (half * 2) := by
      rw [Nat.mul_comm (half * 2)]
      exact Nat.mul_le_mul_right (half * 2) hbelow
    rw [Nat.mul_add] at hstep
    split
    · omega
    · split <;> omega
  · obtain rfl : q = 2 * 4503599627370496 - 1 := by omega
    split
    · omega
    · split <;> omega

/-- A whole number overflows, rounded to 53 bits, from half a step below the power of two. -/
theorem significant_lt_iff (n j : Nat) :
    significant n 1 < Nat.pow 2 (54 + j) ↔ n + Nat.pow 2 j < Nat.pow 2 (54 + j) := by
  have hcoefficient := coefficient_le n 1
  have hquotient := quotient_lt n 1
  have hdouble : Nat.pow 2 (54 + j) = Nat.pow 2 (53 + j) * 2 := by rw [Nat.add_right_comm 53 1 j]; rfl
  rw [Nat.div_one] at hquotient
  rw [Nat.one_mul] at hcoefficient
  unfold significant
  rw [Nat.one_mul]
  rcases Nat.lt_trichotomy (excess n 1) (j + 1) with hfew | hone | hmany
  · have hround : nearest n (Nat.pow 2 (excess n 1)) * Nat.pow 2 (excess n 1) ≤ Nat.pow 2 (53 + j) := by
      rw [two_pow_add]
      exact Nat.mul_le_mul hcoefficient (two_pow_le (by omega))
    have hn : Nat.pow 2 (53 + excess n 1) ≤ Nat.pow 2 (53 + j) := two_pow_le (by omega)
    have hhalf : Nat.pow 2 j ≤ Nat.pow 2 (53 + j) := two_pow_le (by omega)
    have := two_pow_pos (53 + j)
    omega
  · have hp : Nat.pow 2 (excess n 1) = Nat.pow 2 j * 2 := by rw [hone]; rfl
    have hlimit : Nat.pow 2 (54 + j) = Nat.pow 2 53 * (Nat.pow 2 j * 2) := by
      rw [hdouble, two_pow_add, Nat.mul_assoc]
    have hsmall : n / (Nat.pow 2 j * 2) < Nat.pow 2 53 := by
      rw [← hp]
      apply Nat.div_lt_of_lt_mul
      rwa [← two_pow_add, Nat.add_comm]
    rw [hp, hlimit, Nat.mul_lt_mul_right (by have := two_pow_pos j; omega)]
    exact nearest_lt_iff hsmall (two_pow_pos j)
  · have hlog : 54 + j ≤ n.log2 := by
      unfold excess at hmany
      rw [Nat.div_one] at hmany
      omega
    have hn : n ≠ 0 := by
      rintro rfl
      rw [Nat.log2_zero] at hlog
      omega
    have hlow : Nat.pow 2 (52 + excess n 1) ≤ n := by
      refine Nat.le_trans (two_pow_le ?_) (Nat.log2_self_le hn)
      unfold excess
      rw [Nat.div_one]
      omega
    have hcovered : Nat.pow 2 52 ≤ n / Nat.pow 2 (excess n 1) := by
      rw [Nat.le_div_iff_mul_le (two_pow_pos _), ← two_pow_add]
      exact hlow
    have hround : Nat.pow 2 (54 + j) ≤ nearest n (Nat.pow 2 (excess n 1)) * Nat.pow 2 (excess n 1) := by
      calc Nat.pow 2 (54 + j) ≤ Nat.pow 2 (52 + excess n 1) := two_pow_le (by omega)
        _ = Nat.pow 2 52 * Nat.pow 2 (excess n 1) := two_pow_add _ _
        _ ≤ _ := Nat.mul_le_mul_right _ (Nat.le_trans hcovered (le_nearest _ _))
    have : Nat.pow 2 (54 + j) ≤ n := Nat.le_trans (two_pow_le (by omega)) hlow
    omega

end Rounding

namespace Binary64

/-- The integers with a finite binary64 number. -/
theorem isFinite_ofInt_iff {n : Int} : (ofInt n).isFinite = true ↔ n.natAbs + Nat.pow 2 970 < Nat.pow 2 1024 := by
  obtain ⟨b, c, hb, hc, hunit, hover⟩ := bounds_eq
  obtain ⟨k, hk⟩ : ∃ k, k = 1024 := ⟨_, rfl⟩
  obtain ⟨h, hh⟩ : ∃ h, h = 970 := ⟨_, rfl⟩
  have hlimit : Nat.pow 2 (54 + (h + b)) = Nat.pow 2 k * unitsPerOne := by
    rw [hunit, ← Rounding.two_pow_add]
    exact congrArg (Nat.pow 2) (by omega)
  have hhalf : Nat.pow 2 (h + b) = Nat.pow 2 h * unitsPerOne := by
    rw [hunit]
    exact Rounding.two_pow_add h b
  obtain rfl : c = 54 + (h + b) := by omega
  unfold ofInt ofUnits
  rw [← hk, ← hh, isFinite_ofRatio_iff, hover, Rounding.significant_lt_iff, hlimit, hhalf, Int.natAbs_mul,
    Int.natAbs_natCast, ← Nat.add_mul, Nat.mul_lt_mul_right unitsPerOne_pos]

end Binary64

end TurtleGraphics
