import TurtleGraphics.Binary64.Circular
import TurtleGraphics.Decimal.Layout

/-! Numbers of two kinds, integers of any size and binary64 numbers, compared by exact value. -/

namespace TurtleGraphics

/-- The two kinds are kept apart: the integer one is not the binary64 number one. -/
inductive Number where
  | int (n : Int)
  | float (x : Binary64)
deriving DecidableEq

namespace Number

/-- Where a number stands on the line between the two infinities, in units. -/
inductive Place where
  | below
  | at (units : Int)
  | above
deriving DecidableEq

def Place.le : Place → Place → Bool
  | .below, _ => true
  | _, .above => true
  | .at a, .at b => a ≤ b
  | _, _ => false

/-- A not-a-number stands nowhere. -/
def place? : Number → Option Place
  | .int n => some (.at (n * unitsPerOne))
  | .float .notANumber => none
  | .float (.infinite s) => some (if s then .below else .above)
  | .float (.finite s m) => some (.at (m.signed s))

/-- Comparison by exact value, whatever the two kinds; a not-a-number compares with nothing. -/
def le (x y : Number) : Bool :=
  match x.place?, y.place? with
  | some p, some q => p.le q
  | _, _ => false

def lt (x y : Number) : Bool :=
  match x.place?, y.place? with
  | some p, some q => !q.le p
  | _, _ => false

/-- Equality by exact value; a not-a-number equals nothing. -/
def equals (x y : Number) : Bool := x.place?.isSome && x.place? = y.place?

/-- An integer past the largest finite number has no binary64 number. -/
def toBinary64? : Number → Option Binary64
  | .int n => Binary64.ofInt? n
  | .float x => some x

/-- Whether a number is finite; unanswered when an integer has no binary64 number. -/
def isFinite? (x : Number) : Option Bool := x.toBinary64?.map Binary64.isFinite

/-- Integers together are exact; otherwise both numbers are first made binary64. -/
def combine? (exact : Int → Int → Int) (rounded : Binary64 → Binary64 → Binary64) :
    Number → Number → Option Number
  | .int a, .int b => some (.int (exact a b))
  | x, y => do return .float (rounded (← x.toBinary64?) (← y.toBinary64?))

def add? : Number → Number → Option Number := combine? (· + ·) Binary64.add

def sub? : Number → Number → Option Number := combine? (· - ·) Binary64.sub

/-- The smaller number, the first of equal ones. -/
def min (x y : Number) : Number := if y.lt x then y else x

/-- The larger number, the first of equal ones. -/
def max (x y : Number) : Number := if x.lt y then y else x

def zero : Number := .int 0

def intText (n : Int) : List Char := Binary64.signText (n < 0) ++ Nat.toDigits 10 n.natAbs

def text : Number → List Char
  | .int n => intText n
  | .float x => x.shortestText

/-- Integers of more digits than this are neither read nor written as decimal text. -/
def digitLimit : Nat := 4300

def digitCount (n : Int) : Nat := (Nat.toDigits 10 n.natAbs).length

def isWritable : Number → Bool
  | .int n => digitCount n ≤ digitLimit
  | .float _ => true

end Number

structure Point where
  x : Number
  y : Number
deriving DecidableEq

namespace Point

def origin : Point := ⟨.float (.zero false), .float (.zero false)⟩

end Point

end TurtleGraphics
