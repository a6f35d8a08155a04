import TurtleGraphics.Json.Basic

/-! What is wrong with a value that was read for a place with a fixed type, and where it stands. -/

namespace TurtleGraphics

inductive PathItem where
  | name (s : String)
  | index (n : Nat)
deriving DecidableEq

inductive IssueCause where
  | notJson
  | notList
  | notObject
  | notSection (owner : String)
  | missing
  | notText
  | brokenText
  | notNumber
  | notNumberText
  | notFinite
  | notInteger
  | notIntegerText
  | integerTooLarge
  | hasFraction
  | rejected (message : String)
deriving DecidableEq

namespace IssueCause

def code : IssueCause → String
  | .notJson => "json_invalid"
  | .notList => "list_type"
  | .notObject | .notSection _ => "model_type"
  | .missing => "missing"
  | .notText => "string_type"
  | .brokenText => "string_unicode"
  | .notNumber => "float_type"
  | .notNumberText => "float_parsing"
  | .notFinite => "finite_number"
  | .notInteger => "int_type"
  | .notIntegerText => "int_parsing"
  | .integerTooLarge => "int_parsing_size"
  | .hasFraction => "int_from_float"
  | .rejected _ => "value_error"

def message : IssueCause → String
  | .notJson => "Invalid JSON"
  | .notList => "Input should be a valid array"
  | .notObject => "Input should be an object"
  | .notSection owner => s!"Input should be a valid dictionary or instance of {owner}"
  | .missing => "Field required"
  | .notText => "Input should be a valid string"
  | .brokenText => "Input should be a valid string, unable to parse raw data as a unicode string"
  | .notNumber => "Input should be a valid number"
  | .notNumberText => "Input should be a valid number, unable to parse string as a number"
  | .notFinite => "Input should be a finite number"
  | .notInteger => "Input should be a valid integer"
  | .notIntegerText => "Input should be a valid integer, unable to parse string as an integer"
  | .integerTooLarge => "Unable to parse input string as an integer, exceeded maximum size"
  | .hasFraction => "Input should be a valid integer, got a number with a fractional part"
  | .rejected message => s!"Value error, {message}"

end IssueCause

structure Issue where
  path : List PathItem
  cause : IssueCause
deriving DecidableEq

/-- A value, or everything that is wrong with it, in order. -/
abbrev Checked (α : Type) := Except (List Issue) α

namespace Checked

/-- Two checked values together, with the issues of both. -/
def both {α β γ : Type} (f : α → β → γ) : Checked α → Checked β → Checked γ
  | .ok a, .ok b => .ok (f a b)
  | .ok _, .error issues => .error issues
  | .error issues, .ok _ => .error issues
  | .error first, .error second => .error (first ++ second)

/-- One more argument of a function. -/
def apply {α β : Type} (f : Checked (α → β)) (a : Checked α) : Checked β := both (fun f a => f a) f a

theorem both_ok {α β γ : Type} {f : α → β → γ} {a : Checked α} {b : Checked β} {c : γ}
    (h : both f a b = .ok c) : ∃ x y, a = .ok x ∧ b = .ok y ∧ f x y = c := by
  cases a with
  | error e => cases b <;> cases h
  | ok x =>
    cases b with
    | error e => cases h
    | ok y =>
      cases h
      exact ⟨x, y, rfl, rfl, rfl⟩

theorem apply_ok {α β : Type} {f : Checked (α → β)} {a : Checked α} {b : β} (h : apply f a = .ok b) :
    ∃ g x, f = .ok g ∧ a = .ok x ∧ g x = b := both_ok h

end Checked

def issueHeadline (count : Nat) (subject : String) : String :=
  let plural := if count = 1 then "" else "s"
  s!"{count} validation error{plural} for {subject}"

end TurtleGraphics
