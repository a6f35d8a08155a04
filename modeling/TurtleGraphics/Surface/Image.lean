import TurtleGraphics.Surface.Colour

/-! Images of whole pixels, and lines of one pixel's width on them. -/

namespace TurtleGraphics

/-- Rows from the top, each from the left. -/
structure Image where
  width : Nat
  height : Nat
  pixels : Array Colour
  size_pixels : pixels.size = width * height
deriving DecidableEq

/-- The place of a pixel, also outside the image. -/
structure Cell where
  x : Int
  y : Int
deriving DecidableEq

namespace Image

def blank (width height : Nat) (background : Colour) : Image :=
  ⟨width, height, .replicate (width * height) background, by simp⟩

def holds (image : Image) (c : Cell) : Bool :=
  0 ≤ c.x && c.x < image.width && 0 ≤ c.y && c.y < image.height

def index (image : Image) (c : Cell) : Nat := c.y.toNat * image.width + c.x.toNat

/-- Colours one pixel. A cell outside the image is skipped. -/
def paint (colour : Colour) (image : Image) (c : Cell) : Image :=
  if image.holds c then
    { image with
      pixels := image.pixels.set! (image.index c) colour
      size_pixels := by simp [image.size_pixels] }
  else image

def row (image : Image) (y : Nat) : List Colour :=
  (image.pixels.extract (y * image.width) ((y + 1) * image.width)).toList

def rows (image : Image) : List (List Colour) := (List.range image.height).map image.row

end Image

/-- A straight walk over cells: it goes by `along` at each step, and by `across` too whenever the error, which
grows by twice `rise` a step and falls by twice `run` a crossing, is not negative. -/
structure Walk where
  along : Cell
  across : Cell
  run : Int
  rise : Int

namespace Walk

def shift (c d : Cell) : Cell := ⟨c.x + d.x, c.y + d.y⟩

/-- The walk between two cells, along the axis on which they are farther apart. -/
def between (a b : Cell) : Walk :=
  let dx : Int := (b.x - a.x).natAbs
  let dy : Int := (b.y - a.y).natAbs
  let stepX : Cell := ⟨if a.x < b.x then 1 else -1, 0⟩
  let stepY : Cell := ⟨0, if a.y < b.y then 1 else -1⟩
  if dy < dx then ⟨stepX, stepY, dx, dy⟩ else ⟨stepY, stepX, dy, dx⟩

def paint (w : Walk) (colour : Colour) : (steps : Nat) → (error : Int) → Cell → Image → Image
  | 0, _, _, image => image
  | steps + 1, error, c, image =>
    let next := shift c w.along
    if 0 ≤ error then
      w.paint colour steps (error - 2 * w.run + 2 * w.rise) (shift next w.across) (image.paint colour c)
    else w.paint colour steps (error + 2 * w.rise) next (image.paint colour c)

end Walk

namespace Image

/-- Paints a segment without its last cell. -/
def drawSegment (colour : Colour) (image : Image) (a b : Cell) : Image :=
  let w := Walk.between a b
  w.paint colour w.run.toNat (2 * w.rise - w.run) a image

/-- Paints the segments of a polyline, and its last cell. -/
def drawPolyline (colour : Colour) (image : Image) : List Cell → Image
  | [] => image
  | [c] => image.paint colour c
  | a :: b :: rest => drawPolyline colour (image.drawSegment colour a b) (b :: rest)

end Image

end TurtleGraphics
