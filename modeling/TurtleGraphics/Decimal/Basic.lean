import TurtleGraphics.Binary64.Basic

/-! Decimal numbers, and the binary64 number nearest to one. -/

namespace TurtleGraphics

/-- The number `coefficient * 10 ^ exponent`. -/
structure Decimal where
  coefficient : Nat
  exponent : Int
deriving DecidableEq

namespace Decimal

/-- Moves trailing zeros of the coefficient into the exponent, at most as many as the first argument. -/
def dropZeros : Nat → Decimal → Decimal
  | 0, d => d
  | n + 1, d =>
    if d.coefficient ≠ 0 ∧ d.coefficient % 10 = 0 then dropZeros n ⟨d.coefficient / 10, d.exponent + 1⟩ else d

/-- The numerator over one, or over a power of ten, as a count of units. -/
def toRatio (d : Decimal) : Nat × Nat :=
  if 0 ≤ d.exponent then (d.coefficient * Nat.pow 10 d.exponent.toNat * unitsPerOne, 1)
  else (d.coefficient * unitsPerOne, Nat.pow 10 (-d.exponent).toNat)

/-- A decimal of at least `10 ^ 401` is past every finite number. -/
def isHuge (d : Decimal) : Bool := 400 < d.exponent

/-- A decimal below `10 ^ -399` is nearer to zero than to the smallest unit. -/
def isMinute (d : Decimal) : Bool := d.exponent < -400 - (d.coefficient.log2 : Int)

end Decimal

/-- The number nearest to a decimal, a tie going to the even coefficient. -/
def Binary64.ofDecimal (negative : Bool) (d : Decimal) : Binary64 :=
  if d.coefficient = 0 ∨ d.isMinute then .zero negative
  else if d.isHuge then .infinite negative
  else .ofRatio negative d.toRatio.1 d.toRatio.2

end TurtleGraphics
