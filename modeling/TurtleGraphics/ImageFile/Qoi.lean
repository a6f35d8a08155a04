import TurtleGraphics.ImageFile.Content

/-! Images as QOI bytes: a pixel is told by a run of its colour, by where its colour was seen, or by its change. -/

namespace TurtleGraphics.Qoi

def slotCount : Nat := 64

/-- The slot of a colour, which is taken as opaque. -/
def slot (c : Colour) : Nat :=
  (c.red.toNat * 3 + c.green.toNat * 5 + c.blue.toNat * 7 + 255 * 11) % slotCount

def longestRun : Nat := 62

/-- A run of one colour, where there is one. -/
def runBytes : Nat → List UInt8
  | 0 => []
  | n + 1 => [0xC0 + UInt8.ofNat n]

/-- The integer next to zero among those that are equal to a difference modulo `256`. -/
def wrapped (difference : Int) : Int := difference.bmod 256

def change (new old : UInt8) : Int := wrapped (new.toNat - old.toNat)

/-- Whether a change is one of the `2 * bound` ones about zero. -/
def within (bound : Nat) (d : Int) : Bool := -bound ≤ d && d < bound

/-- A change within a bound, counted from the least one. -/
def raised (bound : Nat) (d : Int) : UInt8 := UInt8.ofNat (d + bound).toNat

/-- A colour behind another one. A small change takes one byte; a change that the green one is close to takes two;
any other colour is spelled out. -/
def colourBytes (last c : Colour) : List UInt8 :=
  let red := change c.red last.red
  let green := change c.green last.green
  let blue := change c.blue last.blue
  let redBeside := wrapped (red - green)
  let blueBeside := wrapped (blue - green)
  if within 2 red && within 2 green && within 2 blue then
    [0x40 + raised 2 red * 16 + raised 2 green * 4 + raised 2 blue]
  else if within 32 green && within 8 redBeside && within 8 blueBeside then
    [0x80 + raised 32 green, raised 8 redBeside * 16 + raised 8 blueBeside]
  else 0xFE :: ImageContent.colourBytes c

/-- What is kept between pixels: the last colour, how many pixels of it are not told yet, and the colours seen. -/
structure Progress where
  last : Colour
  run : Nat
  seen : Array (Option Colour)

namespace Progress

def start : Progress := ⟨.black, 0, .replicate slotCount none⟩

/-- The bytes that the next pixel adds. -/
def told (p : Progress) (c : Colour) : List UInt8 :=
  if c = p.last then if p.run + 1 = longestRun then runBytes longestRun else []
  else runBytes p.run ++
    if p.seen.getD (slot c) none = some c then [UInt8.ofNat (slot c)] else colourBytes p.last c

def next (p : Progress) (c : Colour) : Progress :=
  if c = p.last then { p with run := if p.run + 1 = longestRun then 0 else p.run + 1 }
  else ⟨c, 0, p.seen.setIfInBounds (slot c) (some c)⟩

end Progress

/-- The bytes of pixels, and what is kept behind them. -/
def tell (pixels : Array Colour) : Array UInt8 × Progress :=
  pixels.foldl (fun (bytes, p) c => (bytes ++ p.told c, p.next c)) (#[], .start)

/-- The sides, three colours a pixel, all of them linear; and a mark behind the pixels. -/
def encode (image : Image) : ImageContent where
  head := ImageContent.ascii "qoif" ++ ImageContent.highLongWord image.width ++
    ImageContent.highLongWord image.height ++ [3, 1]
  rest? := let (bytes, p) := tell image.pixels; some (bytes.toList ++ runBytes p.run ++ List.replicate 7 0 ++ [1])

end TurtleGraphics.Qoi
