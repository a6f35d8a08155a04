import TurtleGraphics.Decimal.Numeral
import TurtleGraphics.Json.Reader
import TurtleGraphics.Schema.Validation
import TurtleGraphics.Text.Utf8

/-! How JSON values are taken for texts, numbers and integers. -/

namespace TurtleGraphics.Coerce

def strictJson? (bytes : List UInt8) : Option Json :=
  match Text.Utf8.decode bytes with
  | .error _ => none
  | .ok text => Json.parseStrict? text

/-- A text is taken from a text only, with surrogates or without. -/
def looseText : Json → Except IssueCause LooseText
  | .string s => .ok s
  | _ => .error .notText

/-- A text of characters is taken from a text only. -/
def text : Json → Except IssueCause String
  | .string (.whole s) => .ok s
  | .string (.broken _) => .error .brokenText
  | _ => .error .notText

/-- A number is taken from numbers, truth values and numeric texts. An integer past the largest finite number
is taken by `large`. -/
def number (large : Int → Except IssueCause Binary64) : Json → Except IssueCause Binary64
  | .int n =>
    match Binary64.ofInt? n with
    | some x => .ok x
    | none => large n
  | .float x => .ok x
  | .bool b => .ok (if b then .one else .zero false)
  | .string (.whole s) =>
    match Numeral.binary64? s.toList with
    | some x => .ok x
    | none => .error .notNumberText
  | .string (.broken _) => .error .brokenText
  | _ => .error .notNumber

/-- Any number; an integer that has no binary64 number is none. -/
def anyNumber : Json → Except IssueCause Binary64 := number fun _ => .error .notNumber

/-- A finite number; too large an integer counts as infinite. -/
def finiteNumber (j : Json) : Except IssueCause Binary64 := do
  let x ← number (fun n => .ok (.ofInt n)) j
  if x.isFinite then return x
  throw .notFinite

theorem isFinite_finiteNumber {j : Json} {x : Binary64} (h : finiteNumber j = .ok x) : x.isFinite = true := by
  unfold finiteNumber at h
  cases hx : number (fun n => .ok (.ofInt n)) j with
  | error cause =>
    rw [hx] at h
    cases h
  | ok y =>
    rw [hx] at h
    simp only [bind, Except.bind] at h
    split at h
    · next hfinite =>
      cases h
      exact hfinite
    · cases h

/-- Whole numbers are taken for integers only inside the range of 64 bits, its ends left out. -/
def isSmall (n : Int) : Bool := -9223372036854775808 < n && n < 9223372036854775808

def integerOfNumber (x : Binary64) : Except IssueCause Int :=
  if !x.isFinite then .error .notFinite
  else match x.toInt? with
    | none => .error .hasFraction
    | some n => if isSmall n then .ok n else .error .integerTooLarge

def integerOfText (s : String) : Except IssueCause Int :=
  match Numeral.readInteger s.toList with
  | .value n => .ok n
  | .tooLong => .error .integerTooLarge
  | .malformed => .error .notIntegerText

/-- An integer is taken from integers, truth values, whole numbers and numeric texts. -/
def integer : Json → Except IssueCause Int
  | .int n => .ok n
  | .bool b => .ok (if b then 1 else 0)
  | .float x => integerOfNumber x
  | .string (.whole s) => integerOfText s
  | .string (.broken _) => .error .brokenText
  | _ => .error .notInteger

end TurtleGraphics.Coerce
