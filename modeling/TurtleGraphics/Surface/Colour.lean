import TurtleGraphics.Fault

/-! Colours by hexadecimal digits, and a few of them by name. -/

namespace TurtleGraphics

structure Colour where
  red : UInt8
  green : UInt8
  blue : UInt8
deriving DecidableEq, Inhabited

namespace Colour

def white : Colour := ⟨255, 255, 255⟩

def black : Colour := ⟨0, 0, 0⟩

def named : List (String × Colour) :=
  [("white", white), ("black", black), ("red", ⟨255, 0, 0⟩), ("blue", ⟨0, 0, 255⟩),
    ("lime", ⟨0, 255, 0⟩), ("yellow", ⟨255, 255, 0⟩)]

def byte? (digits : List Char) : Option UInt8 := (Text.readHex? 0 digits).map UInt8.ofNat

/-- `#rgb`, each digit standing for two, or `#rrggbb`. -/
def ofDigits? : List Char → Option Colour
  | ['#', r, g, b] => do return ⟨← byte? [r, r], ← byte? [g, g], ← byte? [b, b]⟩
  | ['#', r, s, g, h, b, c] => do return ⟨← byte? [r, s], ← byte? [g, h], ← byte? [b, c]⟩
  | _ => none

def dropLineFeed (text : List Char) : List Char :=
  if text.getLast? = some '\n' then text.dropLast else text

/-- The colour of a name in lower case, or of digits with perhaps a line feed behind them. -/
def ofLower? : LooseText → Option Colour
  | .broken _ => none
  | .whole s => ((named.find? (·.1 = s)).map (·.2)).or (ofDigits? (dropLineFeed s.toList))

def longestName : Nat := 100

/-- A name that stands for no colour is shown in lower case. -/
def unknown (name : LooseText) : ImagingFault :=
  .value s!"unknown color specifier: {(Datum.ofLooseText name.lower).displayText}"

def ofName (name : LooseText) : Except ImagingFault Colour :=
  if longestName < name.length then .error (.value "color specifier is too long")
  else match ofLower? name.lower with
    | some c => .ok c
    | none => .error (unknown name)

end Colour

end TurtleGraphics
