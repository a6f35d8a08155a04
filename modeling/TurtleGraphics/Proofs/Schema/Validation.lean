import Mathlib.Tactic
import TurtleGraphics.Proofs.Json.Grammar
import TurtleGraphics.Schema.Validation
import TurtleGraphics.Text.Utf8

/-! What is relied on of the library that validates. It reads the texts of a dialect, takes values leniently for texts
and for finite numbers, and takes values of a field's own kind as they are. -/

namespace TurtleGraphics

namespace Json

variable (Numeric : String → Binary64 → Prop)

/-- The number that a value counts as: an integer, a number, a truth value, or a text that stands for a number. -/
inductive IsNumber : Json → Binary64 → Prop where
  | int (n : Int) : IsNumber (.int n) (.ofInt n)
  | float (x : Binary64) : IsNumber (.float x) x
  | bool (b : Bool) : IsNumber (.bool b) (if b then .one else .zero false)
  | text {s : String} {x : Binary64} : Numeric s x → IsNumber (.string (.whole s)) x

/-- Why a value does not count as a finite number. -/
inductive IsRefused : Json → IssueCause → Prop where
  | array (items : List Json) : IsRefused (.array items) .notNumber
  | object (members : List (LooseText × Json)) : IsRefused (.object members) .notNumber
  | broken (points : List CodePoint) : IsRefused (.string (.broken points)) .brokenText
  | text {s : String} : (∀ x, ¬Numeric s x) → IsRefused (.string (.whole s)) .notNumberText
  | notFinite {j : Json} {x : Binary64} : IsNumber Numeric j x → x.isFinite = false → IsRefused j .notFinite

end Json

namespace Validation

variable [Validation]

/-- Every text of a dialect is read as what it spells, if each surrogate in it has its other half. There is room for a
script, and no integer with a finite binary64 number is too long. -/
structure Reads (d : Json.Dialect) : Prop where
  strictJson? {text : List Char} {j : Json} (spelled : Json.SpellsAll d text j) (whole : j.isWhole = true) :
    Validation.strictJson? (Text.Utf8.encode text) = some j
  room : 2 ≤ d.deepest
  digits (negative : Bool) : 309 ≤ d.digits negative

/-- The lenient rules for texts and for finite numbers. They leave open which texts stand for which numbers. -/
structure IsLax (Numeric : String → Binary64 → Prop) : Prop where
  text (s : String) : Validation.text (.string (.whole s)) = .ok s
  brokenText (points : List CodePoint) : Validation.text (.string (.broken points)) = .error .brokenText
  notText {j : Json} (h : ∀ s, j ≠ .string s) : Validation.text j = .error .notText
  finiteNumber {j : Json} {x : Binary64} :
    Validation.finiteNumber j = .ok x ↔ j.IsNumber Numeric x ∧ x.isFinite = true
  notFiniteNumber {j : Json} {cause : IssueCause} (h : j ≠ .null) :
    Validation.finiteNumber j = .error cause ↔ j.IsRefused Numeric cause

/-- Values of a field's own kind are taken as they are, and integers for the binary64 numbers that they have. No integer
is made up that is too long to be written. -/
structure KeepsOwn : Prop where
  integer (n : Int) : Validation.integer (.int n) = .ok n
  anyNumber (x : Binary64) : Validation.anyNumber (.float x) = .ok x
  anyNumber_int {n : Int} {x : Binary64} : Validation.anyNumber (.int n) = .ok x ↔ Binary64.ofInt? n = some x
  looseText {j : Json} {s : LooseText} : Validation.looseText j = .ok s ↔ j = .string s
  isWritable {j : Json} {n : Int} (own : ∀ m, j = .int m → (Number.int m).isWritable = true)
    (h : Validation.integer j = .ok n) : (Number.int n).isWritable = true

end Validation

end TurtleGraphics
