import TurtleGraphics.ImageFile.Png

/-! Files of icons: an image in several sizes. -/

namespace TurtleGraphics.Icon

open ImageContent

def longestSide : Nat := 256

def sides : List Nat := [16, 24, 32, 48, 64, 128, 256]

def smallestSide : Nat := 16

/-- Whether an image is shrunk. An image that is smaller than the smallest icon has an icon of its own size. -/
def isShrunk (width height : Nat) : Bool := smallestSide ≤ width && smallestSide ≤ height

/-- `side * a / b` as one of the two integers next to it, the one by which the ratio of the sides changes least, but
at least `1`. The change is told by `error` as a fraction. -/
def rounded (side a b : Nat) (error : Nat → Nat × Nat) : Nat :=
  let low := side * a / b
  let high := (side * a + b - 1) / b
  let (lowError, lowUnit) := error low
  let (highError, highUnit) := error high
  max 1 (if highError * lowUnit < lowError * highUnit then high else low)

def apart (a b : Nat) : Nat := (a - b) + (b - a)

/-- The sides of an image that is shrunk into a square of a side. -/
def shrunkSize (side width height : Nat) : Nat × Nat :=
  if width ≤ side ∧ height ≤ side then (width, height)
  else if width ≤ height then
    (rounded side width height fun n => (apart (width * side) (n * height), height * side), side)
  else
    (side, rounded side height width fun n => if n = 0 then (0, 1) else (apart (width * n) (side * height), height * n))

def scaled (image : Image) (size : Nat × Nat) : Image :=
  let colour (i : Nat) : Colour :=
    let x := i % size.1 * image.width / size.1
    let y := i / size.1 * image.height / size.2
    image.pixels.getD (y * image.width + x) .black
  ⟨size.1, size.2, Array.ofFn (n := size.1 * size.2) fun i => colour i, by simp⟩

def pictures (image : Image) : List Image :=
  if isShrunk image.width image.height then
    (sides.filter fun side => side ≤ image.width && side ≤ image.height).map fun side =>
      scaled image (shrunkSize side image.width image.height)
  else [image]

def start : List UInt8 := shortWord 0 ++ shortWord 1

/-- The sides of an icon, where `0` stands for `256`, no palette, and `32` bits for a pixel. -/
def sizeFields (image : Image) : List UInt8 :=
  [UInt8.ofNat image.width, UInt8.ofNat image.height, 0, 0] ++ shortWord 0 ++ shortWord 32

def fieldsLength : Nat := 16

def fields (place : Nat) : List (Image × List UInt8) → List UInt8
  | [] => []
  | (image, bytes) :: rest =>
    sizeFields image ++ longWord bytes.length ++ longWord place ++ fields (place + bytes.length) rest

def content (image : Image) : ImageContent :=
  let icons := (pictures image).map fun picture => (picture, Png.encode picture)
  let head := start ++ shortWord icons.length
  ⟨head, some (fields (head.length + fieldsLength * icons.length) icons ++ icons.flatMap (·.2))⟩

end TurtleGraphics.Icon
