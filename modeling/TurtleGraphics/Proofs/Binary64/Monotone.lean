import Mathlib.Tactic
import TurtleGraphics.Proofs.Binary64.Sums

/-! Rounding keeps order. A larger quotient has no smaller rounding, so sums and products of numbers that are not
negative grow with their terms and factors, up to infinity. -/

namespace TurtleGraphics

namespace Rounding

variable {m n : Nat}

theorem nearest_mono (h : m ≤ n) (den : Nat) : nearest m den ≤ nearest n den := by
  have hquotient : m / den ≤ n / den := Nat.div_le_div_right h
  rcases Nat.lt_or_eq_of_le hquotient with hlt | heq
  · calc nearest m den ≤ m / den + 1 := nearest_le m den
      _ ≤ n / den := hlt
      _ ≤ nearest n den := le_nearest n den
  · -- With one quotient it is the remainders that are in order.
    have hm := Nat.div_add_mod m den
    have hn := Nat.div_add_mod n den
    rw [← heq] at hn
    unfold nearest
    rw [← heq]
    generalize m / den = q at hm hn
    generalize den * q = p at hm hn
    split_ifs <;> omega

theorem excess_mono (h : m ≤ n) (den : Nat) : excess m den ≤ excess n den := by
  have hquotient : m / den ≤ n / den := Nat.div_le_div_right h
  have hlog : (m / den).log2 ≤ (n / den).log2 := by
    rcases Nat.eq_zero_or_pos (m / den) with hzero | hpos
    · rw [hzero, Nat.log2_zero]
      exact Nat.zero_le _
    · have hself := Nat.log2_self_le (Nat.pos_iff_ne_zero.mp hpos)
      exact (Nat.le_log2 (by omega)).mpr (Nat.le_trans hself hquotient)
  exact Nat.sub_le_sub_right hlog 52

/-- What loses bits is at least as large as the least number that loses so many. -/
theorem le_significant {num den : Nat} (h : 0 < excess num den) :
    Nat.pow 2 (52 + excess num den) ≤ significant num den := by
  have hlog : 52 + excess num den = (num / den).log2 := by
    unfold excess at h ⊢
    omega
  have hne : num / den ≠ 0 := by
    intro hzero
    rw [hzero, Nat.log2_zero] at hlog
    omega
  have hquotient : Nat.pow 2 (52 + excess num den) ≤ num / den := by
    rw [hlog]
    exact Nat.log2_self_le hne
  have hcoefficient : Nat.pow 2 52 ≤ num / (den * Nat.pow 2 (excess num den)) := by
    rw [← Nat.div_div_eq_div_mul, Nat.le_div_iff_mul_le (two_pow_pos _), ← two_pow_add]
    exact hquotient
  calc Nat.pow 2 (52 + excess num den) = Nat.pow 2 52 * Nat.pow 2 (excess num den) := two_pow_add _ _
    _ ≤ num / (den * Nat.pow 2 (excess num den)) * Nat.pow 2 (excess num den) := Nat.mul_le_mul_right _ hcoefficient
    _ ≤ significant num den := Nat.mul_le_mul_right _ (le_nearest _ _)

theorem significant_le_pow (num den : Nat) : significant num den ≤ Nat.pow 2 (53 + excess num den) := by
  rw [two_pow_add]
  exact Nat.mul_le_mul_right _ (coefficient_le num den)

theorem significant_mono (h : m ≤ n) (den : Nat) : significant m den ≤ significant n den := by
  rcases Nat.lt_or_eq_of_le (excess_mono h den) with hlt | heq
  · calc significant m den ≤ Nat.pow 2 (53 + excess m den) := significant_le_pow m den
      _ ≤ Nat.pow 2 (52 + excess n den) := two_pow_le (by omega)
      _ ≤ significant n den := le_significant (by omega)
  · unfold significant
    rw [heq]
    exact Nat.mul_le_mul_right _ (nearest_mono h _)

/-- A quotient of units kept to 53 bits, past all others when it overflows. -/
def rounded (num den : Nat) : WithTop Nat :=
  if significant num den < overflowUnits then ((significant num den : Nat) : WithTop Nat) else ⊤

theorem rounded_mono (h : m ≤ n) (den : Nat) : rounded m den ≤ rounded n den := by
  have hmono := significant_mono h den
  unfold rounded
  split
  · split
    · exact WithTop.coe_le_coe.mpr hmono
    · exact le_top
  · rw [if_neg (by omega)]

end Rounding

theorem Representable.rounded_eq {n : Nat} (h : Representable n) : Rounding.rounded n 1 = n := by
  rw [Rounding.rounded, h.significant_eq, if_pos h.1]

namespace Binary64

/-- A number that is not negative, and how many units it has. Infinity has more than any other. -/
inductive HasSize : Binary64 → WithTop Nat → Prop where
  | finite {negative : Bool} {m : Magnitude} :
      (negative = true → m.units = 0) → HasSize (.finite negative m) (m.units : Nat)
  | infinite : HasSize (.infinite false) ⊤

variable {x y : Binary64} {m n : Nat}

theorem HasSize.exists_magnitude (h : x.HasSize (n : Nat)) :
    ∃ negative k, x = .finite negative k ∧ k.units = n ∧ (negative = true → n = 0) := by
  generalize hsize : ((n : Nat) : WithTop Nat) = size at h
  cases h with
  | finite hsign =>
    obtain rfl := WithTop.coe_inj.mp hsize
    exact ⟨_, _, rfl, rfl, hsign⟩
  | infinite => cases hsize

theorem HasSize.isFinite (h : x.HasSize (n : Nat)) : x.isFinite = true := by
  obtain ⟨negative, k, rfl, -, -⟩ := h.exists_magnitude
  rfl

theorem hasSize_ofRatio {negative : Bool} {num den : Nat} (hden : 0 < den) (h : negative = true → num = 0) :
    (ofRatio negative num den).HasSize (Rounding.rounded num den) := by
  unfold ofRatio Rounding.rounded
  split
  · refine .finite ?_
    intro hnegative
    change Rounding.significant num den = 0
    rw [h hnegative, Rounding.significant_zero hden]
  · next hlarge =>
    cases negative with
    | false => exact .infinite
    | true =>
      rw [h rfl, Rounding.significant_zero hden] at hlarge
      exact absurd overflowUnits_pos hlarge

theorem hasSize_zero (negative : Bool) : (zero negative).HasSize (0 : Nat) := .finite fun _ => rfl

theorem ofRatio_ne_notANumber (negative : Bool) (num den : Nat) : ofRatio negative num den ≠ .notANumber := by
  unfold ofRatio
  split
  · intro h
    cases h
  · intro h
    cases h

theorem mul_ne_notANumber (hx : x.isFinite = true) (hy : y.isFinite = true) : x.mul y ≠ .notANumber := by
  cases x with
  | notANumber => cases hx
  | infinite s => cases hx
  | finite s a =>
    cases y with
    | notANumber => cases hy
    | infinite t => cases hy
    | finite t b => exact ofRatio_ne_notANumber _ _ _

theorem HasSize.mul (hx : x.HasSize (m : Nat)) (hy : y.HasSize (n : Nat)) :
    (x.mul y).HasSize (Rounding.rounded (m * n) unitsPerOne) := by
  obtain ⟨s, a, rfl, rfl, hs⟩ := hx.exists_magnitude
  obtain ⟨t, b, rfl, rfl, ht⟩ := hy.exists_magnitude
  refine hasSize_ofRatio unitsPerOne_pos ?_
  intro hsigns
  rw [Nat.mul_eq_zero]
  cases s with
  | true => exact .inl (hs rfl)
  | false =>
    cases t with
    | true => exact .inr (ht rfl)
    | false => cases hsigns

theorem signed_of_sign {negative : Bool} (k : Magnitude) (h : negative = true → k.units = 0) :
    k.signed negative = k.units ∧ k.signed (!negative) = -(k.units : Int) := by
  cases negative with
  | false => exact ⟨rfl, rfl⟩
  | true =>
    have hzero := h rfl
    simp [Magnitude.signed, hzero]

/-- What is left of a number, when no more is taken away than there is, is no larger than it was. -/
theorem HasSize.sub (hx : x.HasSize (m : Nat)) (hy : y.HasSize (n : Nat)) (h : n ≤ m) :
    ∃ rest : Nat, (x.sub y).HasSize rest ∧ rest ≤ m := by
  obtain ⟨s, a, rfl, rfl, hs⟩ := hx.exists_magnitude
  obtain ⟨t, b, rfl, rfl, ht⟩ := hy.exists_magnitude
  have htotal : a.signed s + b.signed (!t) = ((a.units - b.units : Nat) : Int) := by
    rw [(signed_of_sign a hs).1, (signed_of_sign b ht).2]
    omega
  unfold sub neg add
  simp only [htotal]
  split
  · exact ⟨0, hasSize_zero _, Nat.zero_le _⟩
  · have hsize := @hasSize_ofRatio false (a.units - b.units) 1 Nat.one_pos nofun
    have hle := Rounding.rounded_mono (Nat.sub_le a.units b.units) 1
    rw [a.representable.rounded_eq] at hle
    obtain ⟨rest, hrest, hrest'⟩ := WithTop.le_coe_iff.mp hle
    refine ⟨rest, ?_, hrest'⟩
    rw [hrest] at hsize
    unfold ofUnits
    rw [Int.natAbs_natCast, decide_eq_false (by omega)]
    exact hsize

end Binary64

end TurtleGraphics
