import TurtleGraphics.Text.Hex
import TurtleGraphics.Text.Printable

/-! Quoted texts and byte strings, as messages show them. -/

namespace TurtleGraphics.Text

/-- Single quotes, unless they would need an escape and double quotes would not. -/
def quoteFor (hasSingle hasDouble : Bool) : Char := if hasSingle && !hasDouble then '"' else '\''

/-- Two, four or eight hexadecimal digits, by the size of the character. -/
def numericEscape (n : Nat) : List Char :=
  if n < 256 then '\\' :: 'x' :: hex 2 n
  else if n < 65536 then '\\' :: 'u' :: hex 4 n
  else '\\' :: 'U' :: hex 8 n

def layoutEscape? (n : Nat) : Option Char :=
  if n = 10 then some 'n' else if n = 13 then some 'r' else if n = 9 then some 't' else none

def quotedChar (quote c : Char) : List Char :=
  if c = quote ∨ c = '\\' then ['\\', c]
  else match layoutEscape? c.toNat with
    | some e => ['\\', e]
    | none => if isPrintable c then [c] else numericEscape c.toNat

/-- A text between quotes. -/
def quoted (text : List Char) : List Char :=
  let quote := quoteFor (text.contains '\'') (text.contains '"')
  quote :: text.flatMap (quotedChar quote) ++ [quote]

def quotedByte (quote : Char) (b : UInt8) : List Char :=
  if b.toNat = quote.toNat ∨ b.toNat = '\\'.toNat then ['\\', Char.ofNat b.toNat]
  else match layoutEscape? b.toNat with
    | some e => ['\\', e]
    | none => if 32 ≤ b.toNat ∧ b.toNat < 127 then [Char.ofNat b.toNat] else numericEscape b.toNat

/-- A byte string between quotes, behind a `b`. -/
def quotedBytes (bytes : List UInt8) : List Char :=
  let quote := quoteFor (bytes.any (·.toNat = '\''.toNat)) (bytes.any (·.toNat = '"'.toNat))
  'b' :: quote :: bytes.flatMap (quotedByte quote) ++ [quote]

end TurtleGraphics.Text
