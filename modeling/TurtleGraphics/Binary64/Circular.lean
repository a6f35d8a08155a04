import TurtleGraphics.Binary64.Arithmetic

/-! Sine and cosine of binary64 numbers, computed in fixed point and rounded once. -/

namespace TurtleGraphics.Binary64

namespace Circular

/-- Fractional bits of the series. The closest that a binary64 number comes to a multiple of a quarter turn
costs about 60 of them, and telling the two sides of a rounding boundary apart about 120. -/
def precision : Nat := 320

def scale : Nat := Nat.pow 2 precision

/-- Fractional bits of a quarter turn: the largest numbers hold more than `2 ^ 1023` quarter turns. -/
def reductionPrecision : Nat := precision + 1100

/-- The alternating series of the arc tangent, from the power of the inverse that starts it. -/
def arcTangentSeries (square : Nat) : Nat → Nat → Nat → Int
  | 0, _, _ => 0
  | terms + 1, power, odd =>
    power / odd - arcTangentSeries square terms (power / square) (odd + 2)

/-- The arc tangent of `1 / n` with the given number of fractional bits. -/
def arcTangentInverse (n bits : Nat) : Int := arcTangentSeries (n * n) bits (Nat.pow 2 bits / n) 1

/-- The ratio of a circle's circumference to its diameter with the given number of fractional bits. -/
def pi (bits : Nat) : Nat :=
  ((16 * arcTangentInverse 5 (bits + 64) - 4 * arcTangentInverse 239 (bits + 64)) / (Nat.pow 2 64 : Nat)).toNat

def quarterTurn : Nat := pi reductionPrecision / 2

/-- An angle without its sign: the quarter turns it holds, and what is left in fixed point. -/
structure Reduced where
  quarters : Nat
  rest : Nat

def reduce (m : Magnitude) : Reduced :=
  let angle := m.units * Nat.pow 2 (reductionPrecision - 1074)
  ⟨angle / quarterTurn, angle % quarterTurn / Nat.pow 2 (reductionPrecision - precision)⟩

/-- `1 - s / (i (i+1)) (1 - s / ((i+2) (i+3)) (1 - …))` in fixed point. -/
def alternating (square : Int) : Nat → Nat → Int
  | 0, _ => scale
  | terms + 1, i =>
    scale - square * alternating square terms (i + 2) / (scale * (i * (i + 1)) : Nat)

def terms : Nat := 50

def sineSeries (angle : Nat) : Int :=
  angle * alternating (angle * angle / scale : Nat) terms 2 / scale

def cosineSeries (angle : Nat) : Int :=
  alternating (angle * angle / scale : Nat) terms 1

/-- The sine of an angle without its sign; each quarter turn turns a sine into a cosine. -/
def sine (r : Reduced) : Int :=
  match r.quarters % 4 with
  | 0 => sineSeries r.rest
  | 1 => cosineSeries r.rest
  | 2 => -sineSeries r.rest
  | _ => -cosineSeries r.rest

def cosine (r : Reduced) : Int := sine { r with quarters := r.quarters + 1 }

/-- Reads a fixed-point ratio, which never leaves the interval from -1 to 1. -/
def toBinary64 (value : Int) : Binary64 :=
  ofRatio (value < 0) (min value.natAbs scale * unitsPerOne) scale

/-- Below `2 ^ -26` an angle is its own sine, to half a unit in the last place. -/
def isTiny (m : Magnitude) : Bool := m.units < Nat.pow 2 1048

end Circular

/-- A sine or cosine is at most one, so it is finite. -/
theorem isFinite_toBinary64 (value : Int) : (Circular.toBinary64 value).isFinite = true := by
  have hquotient : min value.natAbs Circular.scale * unitsPerOne / Circular.scale ≤ unitsPerOne := by
    apply Nat.div_le_of_le_mul
    exact Nat.mul_le_mul_right unitsPerOne (Nat.min_le_right _ _)
  have hroom : 2 * unitsPerOne + 1 < overflowUnits := by decide +kernel
  have hle := Rounding.significant_le (min value.natAbs Circular.scale * unitsPerOne) Circular.scale
  exact (isFinite_ofRatio_iff _ _ _).mpr (by omega)

/-- The sine of an angle in radians. Only a finite angle has one. -/
def sin : Binary64 → Binary64
  | .finite s m =>
    if Circular.isTiny m then .finite s m
    else
      let value := Circular.sine (Circular.reduce m)
      Circular.toBinary64 (if s then -value else value)
  | _ => .notANumber

def cos : Binary64 → Binary64
  | .finite _ m => Circular.toBinary64 (Circular.cosine (Circular.reduce m))
  | _ => .notANumber

theorem isFinite_sin {x : Binary64} (h : x.isFinite = true) : x.sin.isFinite = true := by
  cases x with
  | notANumber => cases h
  | infinite s => cases h
  | finite s m =>
    simp only [sin]
    split
    · rfl
    · exact isFinite_toBinary64 _

theorem isFinite_cos {x : Binary64} (h : x.isFinite = true) : x.cos.isFinite = true := by
  cases x with
  | notANumber => cases h
  | infinite s => cases h
  | finite s m => exact isFinite_toBinary64 _

/-- Half a turn in radians, as the nearest binary64 number. -/
def pi : Binary64 := ofRatio false (884279719003555 * Nat.pow 2 1026) 1

/-- The factor from degrees to radians: `pi`, divided by 180 and rounded. -/
def radiansPerDegree : Binary64 :=
  match pi with
  | .finite s m => ofRatio s m.units 180
  | x => x

end TurtleGraphics.Binary64
