import TurtleGraphics.Binary64.Basic

/-! Sums and products of binary64 numbers: the exact result, rounded once. -/

namespace TurtleGraphics.Binary64

def neg : Binary64 → Binary64
  | .notANumber => .notANumber
  | .infinite s => .infinite (!s)
  | .finite s m => .finite (!s) m

/-- A sum of exactly zero is negative only when both terms are. -/
def add : Binary64 → Binary64 → Binary64
  | .notANumber, _ | _, .notANumber => .notANumber
  | .infinite s, .infinite t => if s = t then .infinite s else .notANumber
  | .infinite s, .finite _ _ => .infinite s
  | .finite _ _, .infinite t => .infinite t
  | .finite s m, .finite t n =>
    let total := m.signed s + n.signed t
    if total = 0 then .zero (s && t) else ofUnits total

def sub (x y : Binary64) : Binary64 := x.add y.neg

/-- A product has the sign of the two factors together, also when it is zero or infinite. -/
def mul : Binary64 → Binary64 → Binary64
  | .notANumber, _ | _, .notANumber => .notANumber
  | .infinite s, .infinite t => .infinite (s != t)
  | .infinite s, .finite t n => if n.units = 0 then .notANumber else .infinite (s != t)
  | .finite s m, .infinite t => if m.units = 0 then .notANumber else .infinite (s != t)
  | .finite s m, .finite t n => ofRatio (s != t) (m.units * n.units) unitsPerOne

end TurtleGraphics.Binary64
