import TurtleGraphics.Rounding

/-! Binary64 numbers by their exact value: a finite one is a whole number of units of `2 ^ -1074`. -/

namespace TurtleGraphics

/-- A unit is the smallest positive binary64 number; one is this many units. -/
def unitsPerOne : Nat := Nat.pow 2 1074

/-- No finite number reaches `2 ^ 1024`, counted in units. -/
def overflowUnits : Nat := Nat.pow 2 2098

theorem unitsPerOne_pos : 0 < unitsPerOne := by decide +kernel

theorem overflowUnits_pos : 0 < overflowUnits := by decide +kernel

/-- A magnitude in units is representable when 53 significant bits hold it and it does not overflow. -/
def Representable (units : Nat) : Prop :=
  units < overflowUnits ∧ ∃ m k, m < Nat.pow 2 53 ∧ units = m * Nat.pow 2 k

structure Magnitude where
  units : Nat
  representable : Representable units
deriving DecidableEq

namespace Magnitude

@[ext] theorem ext {a b : Magnitude} (h : a.units = b.units) : a = b := by
  cases a; cases b; cases h; rfl

def zero : Magnitude := ⟨0, overflowUnits_pos, 0, 0, by decide, rfl⟩

def signed (m : Magnitude) (negative : Bool) : Int := if negative then -m.units else m.units

end Magnitude

/-- A binary64 number. Both zeros are kept apart, and all the not-a-numbers are one value. -/
inductive Binary64 where
  | notANumber
  | infinite (negative : Bool)
  | finite (negative : Bool) (magnitude : Magnitude)
deriving DecidableEq

namespace Binary64

/-- The number nearest to `num / den` units, a tie going to the even coefficient; past the largest finite
number it is infinite. -/
def ofRatio (negative : Bool) (num den : Nat) : Binary64 :=
  if h : Rounding.significant num den < overflowUnits then
    .finite negative ⟨Rounding.significant num den, h, Rounding.significant_form num den⟩
  else .infinite negative

def ofUnits (units : Int) : Binary64 := ofRatio (units < 0) units.natAbs 1

def ofInt (n : Int) : Binary64 := ofUnits (n * unitsPerOne)

def zero (negative : Bool) : Binary64 := .finite negative .zero

def one : Binary64 := ofInt 1

def units? : Binary64 → Option Int
  | .finite s m => some (m.signed s)
  | _ => none

def isFinite : Binary64 → Bool
  | .finite _ _ => true
  | _ => false

theorem isFinite_iff {x : Binary64} : x.isFinite = true ↔ ∃ u, x.units? = some u := by
  cases x with
  | notANumber => simp [isFinite, units?]
  | infinite s => simp [isFinite, units?]
  | finite s m => simp [isFinite, units?]

theorem isFinite_ofRatio_iff (negative : Bool) (num den : Nat) :
    (ofRatio negative num den).isFinite = true ↔ Rounding.significant num den < overflowUnits := by
  unfold ofRatio
  split
  · simp only [isFinite, *]
  · simp only [isFinite, Bool.false_eq_true, *]

/-- An integer is converted only when the nearest number is finite. -/
def ofInt? (n : Int) : Option Binary64 := if (ofInt n).isFinite then some (ofInt n) else none

def floor? (x : Binary64) : Option Int := x.units?.map (· / (unitsPerOne : Int))

/-- The integer between zero and a finite number that is nearest to the number. -/
def truncate? (x : Binary64) : Option Int := x.units?.map (Int.tdiv · (unitsPerOne : Int))

/-- The integer that a finite number without a fraction equals. -/
def toInt? (x : Binary64) : Option Int :=
  x.units?.bind fun u => if u % (unitsPerOne : Int) = 0 then some (u / (unitsPerOne : Int)) else none

end Binary64

end TurtleGraphics
