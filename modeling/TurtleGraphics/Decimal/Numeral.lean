import TurtleGraphics.Decimal.Basic
import TurtleGraphics.Text.Blank

/-! Numbers read from free text: blanks around it, single underscores inside it, one sign. -/

namespace TurtleGraphics

namespace Decimal

def ofDigits (whole fraction : List Char) (exponent : Int) : Decimal :=
  ⟨Nat.ofDigitChars 10 (whole ++ fraction) 0, exponent - fraction.length⟩

end Decimal

namespace Numeral

def isDigits (text : List Char) : Bool := !text.isEmpty && text.all Char.isDigit

def splitSign : List Char → Bool × List Char
  | '-' :: rest => (true, rest)
  | '+' :: rest => (false, rest)
  | text => (false, text)

def signedNat (negative : Bool) (n : Nat) : Int := if negative then -n else n

/-- A whole text of an exponent: a sign and at least one digit. -/
def exponent? (text : List Char) : Option Int :=
  let (negative, digits) := splitSign text
  if isDigits digits then some (signedNat negative (Nat.ofDigitChars 10 digits 0)) else none

def splitFraction : List Char → List Char × List Char
  | '.' :: rest => (rest.takeWhile Char.isDigit, rest.dropWhile Char.isDigit)
  | text => ([], text)

/-- `5`, `5.`, `.5` and `5e3`: a digit on one side of the point at least, then perhaps an exponent. -/
def unsigned? (text : List Char) : Option Decimal :=
  let whole := text.takeWhile Char.isDigit
  let (fraction, rest) := splitFraction (text.dropWhile Char.isDigit)
  if whole.isEmpty && fraction.isEmpty then none
  else match rest with
    | [] => some (.ofDigits whole fraction 0)
    | mark :: power =>
      if mark = 'e' ∨ mark = 'E' then (exponent? power).map (.ofDigits whole fraction) else none

/-- Drops the underscores from between characters. `afterMark` holds at the start and behind an underscore,
where neither another underscore nor the end may stand. -/
def dropUnderscores? : (afterMark : Bool) → List Char → Option (List Char)
  | true, [] => none
  | false, [] => some []
  | afterMark, c :: rest =>
    if c = '_' then (if afterMark then none else dropUnderscores? true rest)
    else (dropUnderscores? false rest).map (c :: ·)

def infinityNames : List (List Char) := [['i', 'n', 'f'], ['i', 'n', 'f', 'i', 'n', 'i', 't', 'y']]

/-- The binary64 number of a text without blanks and underscores. -/
def bare? (text : List Char) : Option Binary64 :=
  let (negative, body) := splitSign text
  if infinityNames.contains (body.map Char.toLower) then some (.infinite negative)
  else if body.map Char.toLower = ['n', 'a', 'n'] then some .notANumber
  else (unsigned? body).map (.ofDecimal negative)

/-- The binary64 number that a text stands for: with blanks around it or with underscores inside it, but not
with both. -/
def binary64? (text : List Char) : Option Binary64 :=
  (bare? (Text.trim text)).or ((dropUnderscores? true text).bind bare?)

inductive IntegerReading where
  | value (n : Int)
  | tooLong
  | malformed
deriving DecidableEq

def longestInteger : Nat := 4300

/-- Digits behind at most one minus sign, without a zero before other digits. Too many digits are noticed before
what follows them. -/
def readExact (text : List Char) : IntegerReading :=
  let body := if text.head? = some '-' then text.tail else text
  let digits := body.takeWhile Char.isDigit
  if digits.head? = some '0' then (if body = ['0'] then .value 0 else .malformed)
  else if longestInteger < digits.length then .tooLong
  else if isDigits body then .value (signedNat (text.head? = some '-') (Nat.ofDigitChars 10 digits 0))
  else .malformed

/-- The text behind leading zeros, among which underscores may stand. The last zero stays when nothing or a point
follows it; a minus sign may follow too. -/
def skipZeros? (last : Char) : List Char → Option (List Char)
  | [] => some [last]
  | c :: rest =>
    if c = '0' ∨ c = '_' then skipZeros? c rest
    else if c.isDigit ∨ c = '-' then some (c :: rest)
    else if c = '.' then some (last :: c :: rest)
    else none

/-- A text that starts with a digit, without its leading zeros. -/
def dropZeros? : List Char → Option (List Char)
  | [] => none
  | c :: rest => if c = '0' then skipZeros? c rest else if c.isDigit ∨ c = '-' then some (c :: rest) else none

/-- A text without the point and the zeros that end it. -/
def dropZeroFraction (text : List Char) : List Char :=
  match text.dropWhile (· ≠ '.') with
  | '.' :: zeros => if !zeros.isEmpty && zeros.all (· = '0') then text.takeWhile (· ≠ '.') else text
  | _ => text

/-- Digits without leading zeros, a fraction of zeros, and underscores. -/
def plainDigits? (text : List Char) : Option (List Char) :=
  (dropZeros? text).map fun body =>
    let whole := dropZeroFraction body
    (dropUnderscores? true whole).getD whole

/-- A text without the blanks around it, and with nothing but plain digits behind its sign. -/
def plainInteger? (text : List Char) : Option (List Char) :=
  match Text.trim text with
  | '+' :: '-' :: _ => none
  | '-' :: body => (plainDigits? body).map ('-' :: ·)
  | '+' :: body => plainDigits? body
  | body => plainDigits? body

/-- The integer that a text stands for, as it is or made plain. Only a text as it is can be found too long. -/
def readInteger (text : List Char) : IntegerReading :=
  match readExact text with
  | .malformed =>
    match (plainInteger? text).map readExact with
    | some (.value n) => .value n
    | _ => .malformed
  | reading => reading

end Numeral

end TurtleGraphics
