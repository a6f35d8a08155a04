import TurtleGraphics.Decimal.Shortest

/-! How numbers are written: with the fewest digits, with six digits, or with two places. -/

namespace TurtleGraphics

/-- Where a way of writing numbers leaves the positional form, and what marks a number without a fraction. -/
structure NumberStyle where
  lowest : Int
  limit : Int
  wholeMark : List Char

namespace NumberStyle

/-- Positional from `10 ^ -4` up to `10 ^ 16`; a whole number ends in `.0`. -/
def plain : NumberStyle := ⟨-4, 16, ['.', '0']⟩

/-- Positional from `10 ^ -4` up to `10 ^ 6`; a whole number has no point. -/
def brief : NumberStyle := ⟨-4, 6, []⟩

/-- Digits before and after the point, the first standing for `10 ^ lead`. -/
def positional (style : NumberStyle) (digits : List Char) (lead : Int) : List Char :=
  if lead < 0 then '0' :: '.' :: List.replicate (-lead - 1).toNat '0' ++ digits
  else if digits.length ≤ (lead + 1).toNat then
    digits ++ List.replicate ((lead + 1).toNat - digits.length) '0' ++ style.wholeMark
  else digits.take (lead + 1).toNat ++ '.' :: digits.drop (lead + 1).toNat

/-- An exponent has a sign and at least two digits. -/
def exponentText (e : Int) : List Char :=
  let digits := Nat.toDigits 10 e.natAbs
  'e' :: (if e < 0 then '-' else '+') :: (if digits.length < 2 then '0' :: digits else digits)

def exponential (digits : List Char) (lead : Int) : List Char :=
  match digits with
  | [] => exponentText lead
  | [d] => d :: exponentText lead
  | d :: rest => d :: '.' :: rest ++ exponentText lead

def write (style : NumberStyle) (digits : List Char) (lead : Int) : List Char :=
  if style.lowest ≤ lead ∧ lead < style.limit then style.positional digits lead
  else exponential digits lead

def writeDecimal (style : NumberStyle) (d : Decimal) : List Char :=
  let digits := Nat.toDigits 10 d.coefficient
  style.write digits (if d.coefficient = 0 then 0 else d.exponent + digits.length - 1)

end NumberStyle

namespace Decimal

/-- The decimal of six digits nearest to a magnitude, a tie going to the even last digit. -/
def sixDigits (m : Magnitude) : Decimal :=
  let exponent := leadingExponent m - 5
  dropZeros 7 ⟨nearestSteps m exponent, exponent⟩

end Decimal

namespace Binary64

def signText (negative : Bool) : List Char := if negative then ['-'] else []

def infiniteText (negative : Bool) : List Char := signText negative ++ ['i', 'n', 'f']

def notANumberText : List Char := ['n', 'a', 'n']

/-- A number written by a style, its digits chosen by `pick`. -/
def toText (style : NumberStyle) (pick : Magnitude → Decimal) : Binary64 → List Char
  | .notANumber => notANumberText
  | .infinite s => infiniteText s
  | .finite s m => signText s ++ style.writeDecimal (if m.units = 0 then ⟨0, 0⟩ else pick m)

/-- The fewest digits that read back. -/
def shortestText (x : Binary64) : List Char := x.toText .plain Decimal.shortest

/-- Six significant digits, without trailing zeros. -/
def briefText (x : Binary64) : List Char := x.toText .brief Decimal.sixDigits

def placesText (hundredths : Nat) : List Char :=
  Nat.toDigits 10 (hundredths / 100) ++
    '.' :: (Nat.toDigits 10 (hundredths % 100 / 10) ++ Nat.toDigits 10 (hundredths % 10))

/-- Two places, a half going to the even last digit; the sign stays when all digits are zero. -/
def hundredthsText : Binary64 → List Char
  | .notANumber => notANumberText
  | .infinite s => infiniteText s
  | .finite s m => signText s ++ placesText (Decimal.nearestSteps m (-2))

end Binary64

end TurtleGraphics
