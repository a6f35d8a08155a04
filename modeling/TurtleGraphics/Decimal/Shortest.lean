import TurtleGraphics.Decimal.Basic

/-! The shortest decimal that reads back as a given binary64 number. -/

namespace TurtleGraphics.Decimal

/-- The exponent of the power of ten that the first digit of a positive magnitude stands for. -/
def leadingExponent (m : Magnitude) : Int :=
  (Nat.toDigits 10 (m.units * Nat.pow 10 400 / unitsPerOne)).length - 401

/-- A magnitude as a quotient that counts steps of `10 ^ exponent`. -/
def steps (m : Magnitude) (exponent : Int) : Nat × Nat :=
  if 0 ≤ exponent then (m.units, unitsPerOne * Nat.pow 10 exponent.toNat)
  else (m.units * Nat.pow 10 (-exponent).toNat, unitsPerOne)

def nearestSteps (m : Magnitude) (exponent : Int) : Nat :=
  Rounding.nearest (steps m exponent).1 (steps m exponent).2

/-- The neighbours of the magnitude among the decimals of `count` digits, the nearer one first. -/
def candidates (m : Magnitude) (count : Nat) : List Decimal :=
  let exponent := leadingExponent m + 1 - count
  let below := (steps m exponent).1 / (steps m exponent).2
  let near := nearestSteps m exponent
  let far := if near = below then below + 1 else below
  [dropZeros 20 ⟨near, exponent⟩, dropZeros 20 ⟨far, exponent⟩]

def ReadsAs (m : Magnitude) (d : Decimal) : Prop := Binary64.ofDecimal false d = .finite false m

instance (m : Magnitude) : DecidablePred (ReadsAs m) := fun _ => inferInstanceAs (Decidable (_ = _))

/-- Every digit of the magnitude, by `1 / 2 = 5 / 10`. -/
def exact (m : Magnitude) : Decimal := ⟨m.units * Nat.pow 5 1074, -1074⟩

/-- Tries one more digit at a time. -/
def search (m : Magnitude) : Nat → Nat → Decimal
  | 0, _ => exact m
  | tries + 1, count => ((candidates m count).find? (ReadsAs m ·)).getD (search m tries (count + 1))

/-- The decimal of fewest digits that reads back as the magnitude, and of those the nearest. -/
def shortest (m : Magnitude) : Decimal := search m 17 1

end TurtleGraphics.Decimal
