import TurtleGraphics.Text.Hex

/-! Texts as UTF-8 bytes, and where a byte string stops being one. -/

namespace TurtleGraphics.Text

namespace Utf8

inductive Reason where
  | invalidStart
  | invalidContinuation
  | unexpectedEnd
deriving DecidableEq

/-- The bytes that no character can hold: their first position, their number, and the first of them. -/
structure Defect where
  position : Nat
  length : Nat
  lead : UInt8
  reason : Reason
deriving DecidableEq

def Reason.text : Reason → String
  | .invalidStart => "invalid start byte"
  | .invalidContinuation => "invalid continuation byte"
  | .unexpectedEnd => "unexpected end of data"

/-- One byte is shown with its value, several by their positions. -/
def Defect.message (d : Defect) : String :=
  let which :=
    if d.length = 1 then s!"byte 0x{String.ofList (hex 2 d.lead.toNat)} in position {d.position}"
    else s!"bytes in position {d.position}-{d.position + d.length - 1}"
  s!"'utf-8' codec can't decode {which}: {d.reason.text}"

def isTail (b : UInt8) : Bool := 0x80 ≤ b && b < 0xC0

/-- The second byte keeps a character from a longer form than it needs, from the surrogates, and from
passing the last character. -/
def isSecond (lead b : UInt8) : Bool :=
  isTail b && !(lead == 0xE0 && b < 0xA0) && !(lead == 0xED && 0xA0 ≤ b) && !(lead == 0xF0 && b < 0x90) &&
    !(lead == 0xF4 && 0x90 ≤ b)

def payload (b : UInt8) : Nat := b.toNat % 64

/-- The characters of a byte string whose first byte has the given position. -/
def decodeFrom (position : Nat) : List UInt8 → Except Defect (List Char)
  | [] => .ok []
  | a :: rest =>
    let fail (length : Nat) (reason : Reason) := .error ⟨position, length, a, reason⟩
    if a < 0x80 then (decodeFrom (position + 1) rest).map (Char.ofNat a.toNat :: ·)
    else if a < 0xC2 then fail 1 .invalidStart
    else if a < 0xE0 then
      match rest with
      | [] => fail 1 .unexpectedEnd
      | b :: rest =>
        if isTail b then
          (decodeFrom (position + 2) rest).map (Char.ofNat (a.toNat % 32 * 64 + payload b) :: ·)
        else fail 1 .invalidContinuation
    else if a < 0xF0 then
      match rest with
      | [] => fail 1 .unexpectedEnd
      | [b] => if isSecond a b then fail 2 .unexpectedEnd else fail 1 .invalidContinuation
      | b :: c :: rest =>
        if !isSecond a b then fail 1 .invalidContinuation
        else if !isTail c then fail 2 .invalidContinuation
        else
          let code := a.toNat % 16 * 4096 + payload b * 64 + payload c
          (decodeFrom (position + 3) rest).map (Char.ofNat code :: ·)
    else if a < 0xF5 then
      match rest with
      | [] => fail 1 .unexpectedEnd
      | [b] => if isSecond a b then fail 2 .unexpectedEnd else fail 1 .invalidContinuation
      | [b, c] =>
        if !isSecond a b then fail 1 .invalidContinuation
        else if isTail c then fail 3 .unexpectedEnd else fail 2 .invalidContinuation
      | b :: c :: d :: rest =>
        if !isSecond a b then fail 1 .invalidContinuation
        else if !isTail c then fail 2 .invalidContinuation
        else if !isTail d then fail 3 .invalidContinuation
        else
          let code := a.toNat % 8 * 262144 + payload b * 4096 + payload c * 64 + payload d
          (decodeFrom (position + 4) rest).map (Char.ofNat code :: ·)
    else fail 1 .invalidStart

def decode (bytes : List UInt8) : Except Defect (List Char) := decodeFrom 0 bytes

def tailByte (n : Nat) : UInt8 := UInt8.ofNat (128 + n % 64)

def encodeChar (c : Char) : List UInt8 :=
  let n := c.toNat
  if n < 128 then [UInt8.ofNat n]
  else if n < 2048 then [UInt8.ofNat (192 + n / 64), tailByte n]
  else if n < 65536 then [UInt8.ofNat (224 + n / 4096), tailByte (n / 64), tailByte n]
  else [UInt8.ofNat (240 + n / 262144), tailByte (n / 4096), tailByte (n / 64), tailByte n]

def encode (text : List Char) : List UInt8 := text.flatMap encodeChar

end Utf8

/-- Line ends of two characters, and lone carriage returns, become line feeds. -/
def unifyLineEnds : List Char → List Char
  | [] => []
  | '\r' :: '\n' :: rest => '\n' :: unifyLineEnds rest
  | '\r' :: rest => '\n' :: unifyLineEnds rest
  | c :: rest => c :: unifyLineEnds rest

end TurtleGraphics.Text
