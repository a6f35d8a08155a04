import TurtleGraphics.ImageFile.Deflate

/-! Images as PNG bytes. -/

namespace TurtleGraphics.Png

open ImageContent

/-- One bit of a cyclic remainder. -/
def crcBit (c : UInt32) : UInt32 := if c &&& 1 = 1 then (c >>> 1) ^^^ 0xEDB88320 else c >>> 1

/-- One byte of a cyclic remainder. -/
def crcByte (c : UInt32) (b : UInt8) : UInt32 :=
  let c := c ^^^ b.toUInt32
  crcBit (crcBit (crcBit (crcBit (crcBit (crcBit (crcBit (crcBit c)))))))

/-- The cyclic redundancy check of 32 bits. -/
def crc (bytes : List UInt8) : UInt32 := bytes.foldl crcByte 0xFFFFFFFF ^^^ 0xFFFFFFFF

/-- The sum of the bytes and the sum of those sums, modulo the largest prime below `2 ^ 16`. -/
def checksum (bytes : List UInt8) : UInt32 :=
  let sums := bytes.foldl (fun s b =>
    let low := (s.1 + b.toUInt32) % 65521
    (low, (s.2 + low) % 65521)) ((1 : UInt32), (0 : UInt32))
  sums.2 * 65536 + sums.1

/-- A chunk: its length, its name, its content and the check of the last two. -/
def chunk (name : String) (content : List UInt8) : List UInt8 :=
  let body := ascii name ++ content
  highLongWord content.length ++ body ++ highLongWord (crc body).toNat

def signature : List UInt8 := [0x89, 0x50, 0x4E, 0x47, 0x0D, 0x0A, 0x1A, 0x0A]

/-- The size, and eight bits for each of three colours. -/
def headerBytes (image : Image) : List UInt8 := highLongWord image.width ++ highLongWord image.height ++ [8, 2, 0, 0, 0]

def header (image : Image) : List UInt8 := signature ++ chunk "IHDR" (headerBytes image)

def pixelSize : Nat := 3

/-- Bytes one pixel further to the right. -/
def shifted (row : List UInt8) : List UInt8 := List.replicate pixelSize 0 ++ row

/-- Of the bytes to the left, above, and above to the left, the one that is nearest to their plane. -/
def nearest (left above corner : UInt8) : UInt8 :=
  let plane : Int := left.toNat + above.toNat - corner.toNat
  let away (b : UInt8) : Nat := (plane - b.toNat).natAbs
  if away left ≤ away above ∧ away left ≤ away corner then left
  else if away above ≤ away corner then above
  else corner

/-- A row, and the row above it, in four ways: as it is, and by its differences from other bytes. Each way has a
number. -/
def ways (above row : List UInt8) : List (UInt8 × List UInt8) :=
  let around := (shifted row).zip (above.zip (shifted above))
  [(0, row), (2, List.zipWith (· - ·) row above), (1, List.zipWith (· - ·) row (shifted row)),
    (4, List.zipWith (fun b (left, up, corner) => b - nearest left up corner) row around)]

/-- How far bytes are from zero, where the upper half of them counts as below it. -/
def weight (row : List UInt8) : Nat :=
  row.foldl (fun total b => total + if b < 128 then b.toNat else 256 - b.toNat) 0

/-- A row in the first of the ways that are nearest to zero. -/
def rowBytes (above row : List UInt8) : List UInt8 :=
  let best := (ways above row).foldl (fun best way => if weight way.2 < weight best.2 then way else best) (0, row)
  best.1 :: best.2

/-- Every row with the row above it; above the first one are zeros. -/
def rowPairs (image : Image) : List (List UInt8 × List UInt8) :=
  let rows := image.rows.map (·.flatMap colourBytes)
  (List.replicate (image.width * pixelSize) 0 :: rows).zip rows

/-- The distances of copies: neighbours in the row, and those in the row above. -/
def distances (image : Image) : List Nat :=
  let row := image.width * pixelSize + 1
  [1, pixelSize, row - pixelSize, row]

def stream (image : Image) : List UInt8 :=
  let bytes := (rowPairs image).flatMap fun (above, row) => rowBytes above row
  0x78 :: 0x9C :: Deflate.encode (distances image) bytes ++ highLongWord (checksum bytes).toNat

def encode (image : Image) : List UInt8 := header image ++ chunk "IDAT" (stream image) ++ chunk "IEND" []

end TurtleGraphics.Png
