import TurtleGraphics.Surface.Image

/-! What stands in image files, as far as their formats settle it, and the bytes of numbers in them. -/

namespace TurtleGraphics

/-- The bytes that a file starts with; and those behind them, where the format leaves no choice in them. -/
structure ImageContent where
  head : List UInt8
  rest? : Option (List UInt8)

namespace ImageContent

def bytes (c : ImageContent) : List UInt8 := c.head ++ c.rest?.getD []

def ascii (text : String) : List UInt8 := text.toList.map fun c => UInt8.ofNat c.toNat

/-- A number of two bytes, the lowest first. -/
def shortWord (n : Nat) : List UInt8 := [UInt8.ofNat n, UInt8.ofNat (n / 256)]

def longWord (n : Nat) : List UInt8 := shortWord n ++ shortWord (n / 65536)

/-- A number of two bytes, the highest first. -/
def highShortWord (n : Nat) : List UInt8 := (shortWord n).reverse

def highLongWord (n : Nat) : List UInt8 := (longWord n).reverse

def colourBytes (c : Colour) : List UInt8 := [c.red, c.green, c.blue]

/-- The three bytes of a colour from the last. -/
def backwardBytes (c : Colour) : List UInt8 := [c.blue, c.green, c.red]

/-- The rows from the top, by the bytes of each colour. -/
def downward (colour : Colour → List UInt8) (image : Image) : List UInt8 := image.rows.flatMap (·.flatMap colour)

/-- The rows from the bottom, by the bytes of each colour. -/
def upward (colour : Colour → List UInt8) (image : Image) : List UInt8 :=
  image.rows.reverse.flatMap (·.flatMap colour)

end ImageContent

end TurtleGraphics
