import TurtleGraphics.ImageFile.Content

/-! Bytes in fewer bits: what was there before is told by its length and its distance, with fixed codes. -/

namespace TurtleGraphics.Deflate

inductive Token where
  | literal (b : UInt8)
  /-- A number of bytes that were there before, at a distance. -/
  | copy (length distance : Nat)
deriving DecidableEq

/-- The number of bytes, up to a limit, that are the same behind two places. -/
def common (bytes : Array UInt8) (a b : Nat) : (limit : Nat) → Nat
  | 0 => 0
  | limit + 1 =>
    if b < bytes.size ∧ bytes[a]? = bytes[b]? then common bytes (a + 1) (b + 1) limit + 1 else 0

def longestCopy : Nat := 258

/-- Copies that are shorter are not worth their code. -/
def shortestCopy : Nat := 6

/-- The longest copy at a place, among some distances. The very first byte is not copied. -/
def copyAt (distances : List Nat) (bytes : Array UInt8) (place : Nat) : Nat × Nat :=
  (distances.filter fun d => 0 < d && d < place).foldl (fun best d =>
    let length := common bytes (place - d) place longestCopy
    if best.1 < length then (length, d) else best) (0, 0)

/-- The tokens of the bytes from a place on, behind those before it. There are no more tokens than bytes. -/
def tokensFrom (distances : List Nat) (bytes : Array UInt8) :
    (fuel : Nat) → (place : Nat) → Array Token → Array Token
  | 0, _, tokens => tokens
  | fuel + 1, place, tokens =>
    match bytes[place]? with
    | none => tokens
    | some b =>
      let (length, distance) := copyAt distances bytes place
      if length < shortestCopy then tokensFrom distances bytes fuel (place + 1) (tokens.push (.literal b))
      else tokensFrom distances bytes fuel (place + length) (tokens.push (.copy length distance))

def tokens (distances : List Nat) (bytes : Array UInt8) : Array Token := tokensFrom distances bytes bytes.size 0 #[]

/-- The binary digits of a number, the lowest first. -/
def digits (width n : Nat) : List Bool := (List.range width).map n.testBit

/-- The binary digits of a code, the highest first. -/
def code (width n : Nat) : List Bool := (digits width n).reverse

/-- The code of a byte, of the end, or of a class of lengths. -/
def symbol (n : Nat) : List Bool :=
  if n < 144 then code 8 (0x30 + n)
  else if n < 256 then code 9 (0x190 + (n - 144))
  else if n < 280 then code 7 (n - 256)
  else code 8 (0xC0 + (n - 280))

def final : Nat := 256

/-- The number of digits that a class of numbers leaves open, when it settles so many behind the first one. -/
def openDigits (settled n : Nat) : Nat := n.log2 - settled

def classOf (settled n : Nat) : Nat := (openDigits settled n <<< settled) + (n >>> openDigits settled n)

def rest (settled n : Nat) : List Bool := digits (openDigits settled n) n

def lengthCode (length : Nat) : List Bool :=
  if length = longestCopy then symbol 285 else symbol (257 + classOf 2 (length - 3)) ++ rest 2 (length - 3)

def distanceCode (distance : Nat) : List Bool := code 5 (classOf 1 (distance - 1)) ++ rest 1 (distance - 1)

def Token.bits : Token → List Bool
  | .literal b => symbol b.toNat
  | .copy length distance => lengthCode length ++ distanceCode distance

/-- The bits of the only block, which has fixed codes. -/
def blockBits (tokens : Array Token) : List Bool :=
  true :: true :: false :: tokens.toList.flatMap Token.bits ++ symbol final

/-- Bits in bytes, the lowest first. The last byte is filled up. -/
def pack (bits : List Bool) : List UInt8 :=
  let (bytes, last, count) := bits.foldl (fun ((bytes, last, count) : Array UInt8 × Nat × Nat) bit =>
    let last := last + (if bit then 1 <<< count else 0)
    if count = 7 then (bytes.push (UInt8.ofNat last), 0, 0) else (bytes, last, count + 1)) (#[], 0, 0)
  bytes.toList ++ if count = 0 then [] else [UInt8.ofNat last]

def encode (distances : List Nat) (bytes : List UInt8) : List UInt8 :=
  pack (blockBits (tokens distances bytes.toArray))

end TurtleGraphics.Deflate
