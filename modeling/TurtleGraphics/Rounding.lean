/-! Rounding a quotient of natural numbers: to the nearest whole number, and to 53 significant bits. -/

namespace TurtleGraphics.Rounding

/-- The whole number nearest to `num / den`; a tie goes to the even neighbour. -/
def nearest (num den : Nat) : Nat :=
  if 2 * (num % den) < den then num / den
  else if den < 2 * (num % den) then num / den + 1
  else num / den + num / den % 2

theorem le_nearest (num den : Nat) : num / den ≤ nearest num den := by
  unfold nearest
  split
  · exact Nat.le_refl _
  · split <;> omega

theorem nearest_le (num den : Nat) : nearest num den ≤ num / den + 1 := by
  unfold nearest
  split
  · exact Nat.le_succ _
  · split <;> omega

/-- A whole quotient is its own rounding. -/
theorem nearest_mul_self (n : Nat) {den : Nat} (h : 0 < den) : nearest (n * den) den = n := by
  simp [nearest, Nat.mul_mod_left, Nat.mul_div_cancel n h, h]

/-- Rounding depends on the quotient alone. -/
theorem nearest_mul_right (num den : Nat) {k : Nat} (h : 0 < k) :
    nearest (num * k) (den * k) = nearest num den := by
  simp only [nearest, Nat.mul_div_mul_right _ _ h, Nat.mul_mod_mul_right, ← Nat.mul_assoc,
    Nat.mul_lt_mul_right h]

/-- The number of low bits that a quotient loses when 53 significant bits are kept. -/
def excess (num den : Nat) : Nat := (num / den).log2 - 52

/-- The multiple of `2 ^ excess` nearest to `num / den`: the quotient kept to 53 significant bits. -/
def significant (num den : Nat) : Nat :=
  nearest num (den * Nat.pow 2 (excess num den)) * Nat.pow 2 (excess num den)

theorem quotient_lt (num den : Nat) : num / den < Nat.pow 2 (53 + excess num den) := by
  have h : num / den < Nat.pow 2 ((num / den).log2 + 1) := Nat.lt_log2_self
  exact Nat.lt_of_lt_of_le h (Nat.pow_le_pow_right (by decide) (by unfold excess; omega))

/-- The coefficient kept has at most 53 bits, up to a carry into the next power of two. -/
theorem coefficient_le (num den : Nat) : nearest num (den * Nat.pow 2 (excess num den)) ≤ Nat.pow 2 53 := by
  have h : num / den < Nat.pow 2 53 * Nat.pow 2 (excess num den) := by
    have hq := quotient_lt num den
    rwa [Nat.pow_eq, Nat.pow_add] at hq
  have hq : num / (den * Nat.pow 2 (excess num den)) < Nat.pow 2 53 := by
    rw [← Nat.div_div_eq_div_mul]
    exact Nat.div_lt_of_lt_mul (by rw [Nat.mul_comm]; exact h)
  exact Nat.le_trans (nearest_le _ _) hq

/-- Rounding adds at most as much as there is, or one unit. -/
theorem significant_le (num den : Nat) : significant num den ≤ 2 * (num / den) + 1 := by
  have hkept : significant num den ≤ num / den + Nat.pow 2 (excess num den) := by
    unfold significant
    generalize Nat.pow 2 (excess num den) = p
    calc nearest num (den * p) * p ≤ (num / (den * p) + 1) * p := Nat.mul_le_mul_right p (nearest_le num (den * p))
      _ = num / den / p * p + p := by rw [Nat.succ_mul, Nat.div_div_eq_div_mul]
      _ ≤ num / den + p := Nat.add_le_add_right (Nat.div_mul_le_self (num / den) p) p
  rcases Nat.eq_zero_or_pos (num / den) with hzero | hpos
  · have hnone : excess num den = 0 := by
      unfold excess
      rw [hzero]
      rfl
    rw [hnone] at hkept
    rw [hzero] at hkept ⊢
    exact hkept
  · have hpower : Nat.pow 2 (excess num den) ≤ num / den :=
      Nat.le_trans (Nat.pow_le_pow_right (by decide) (Nat.sub_le _ _)) (Nat.log2_self_le (Nat.pos_iff_ne_zero.mp hpos))
    omega

/-- What is kept is a whole number of at most 53 bits times a power of two. -/
theorem significant_form (num den : Nat) :
    ∃ m k, m < Nat.pow 2 53 ∧ significant num den = m * Nat.pow 2 k := by
  rcases Nat.lt_or_eq_of_le (coefficient_le num den) with h | h
  · exact ⟨_, _, h, rfl⟩
  · refine ⟨Nat.pow 2 52, excess num den + 1, by decide, ?_⟩
    rw [significant, h, Nat.pow_eq, Nat.pow_eq, Nat.pow_eq, Nat.pow_eq, Nat.pow_succ 2 (excess num den)]
    omega

end TurtleGraphics.Rounding
