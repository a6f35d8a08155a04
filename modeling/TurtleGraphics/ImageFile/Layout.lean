import TurtleGraphics.ImageFile.Content

/-! The layouts of image files whose pixels are not compressed. -/

namespace TurtleGraphics.ImageContent

/-- A pixmap: its sides and the greatest value of a colour as text, and the rows from the top. -/
def pixmap (image : Image) : ImageContent :=
  ⟨ascii s!"P6\n{image.width} {image.height}\n255\n", some (downward colourBytes image)⟩

def targa (image : Image) : ImageContent where
  head := [0, 0, 2, 0, 0, 0, 0, 0, 0, 0, 0, 0] ++ shortWord image.width ++ shortWord image.height ++ [24, 0]
  rest? := some (upward backwardBytes image ++ List.replicate 8 0 ++ ascii "TRUEVISION-XFILE." ++ [0])

/-- The bytes behind which the pixels of a labelled image start. -/
def labelRoom : Nat := 511

def labelStart : List UInt8 := ascii "Image type: RGB image\r\n"

/-- An image behind a label that names the file. The rows stand from the bottom, each colour of a row by itself. -/
def labelled (name : List Char) (image : Image) : ImageContent :=
  let label := labelStart ++ ascii (s!"Name: {String.ofList name}\r\n" ++
    s!"Image size (x*y): {image.width}*{image.height}\r\nFile size (no of images): 1\r\n")
  ⟨label ++ List.replicate (labelRoom - label.length) 0 ++ [0x1A],
    some (image.rows.reverse.flatMap fun row => row.map Colour.red ++ row.map Colour.green ++ row.map Colour.blue)⟩

/-- The number of bytes that a line of hexadecimal digits shows. -/
def bytesPerLine : Nat := 39

/-- Bytes as hexadecimal digits, with a line feed before the next byte when a line is full. -/
def hexLines (bytes : List UInt8) : List Char :=
  bytes.zipIdx.flatMap fun (b, place) =>
    (if place ≠ 0 ∧ place % bytesPerLine = 0 then ['\n'] else []) ++ Text.hex 2 b.toNat

def postScript (image : Image) : ImageContent :=
  let size := s!"{image.width} {image.height}"
  let lines := ["%!PS-Adobe-3.0 EPSF-3.0", "%%Creator: PIL 0.1 EpsEncode", s!"%%BoundingBox: 0 0 {size}",
    "%%Pages: 1", "%%EndComments", "%%Page: 1 1", s!"%ImageData: {size} 8 3 0 1 1 \"false 3 colorimage\"",
    "gsave", "10 dict begin", s!"/buf {image.width * 3} string def", s!"{size} scale", s!"{size} 8",
    s!"[{image.width} 0 0 -{image.height} 0 {image.height}]",
    "\x7b currentfile buf readhexstring pop \x7d bind", "false 3 colorimage"]
  ⟨ascii (String.join (lines.map (· ++ "\n"))),
    some (ascii (String.ofList (hexLines (downward colourBytes image))) ++ ascii "\n%%%%EndBinary\ngrestore end\n")⟩

/-- The bytes of a row of a bitmap, which are a multiple of four. -/
def bitmapStride (image : Image) : Nat := (image.width * 3 + 3) / 4 * 4

/-- Pixels on a metre, which are `96` on an inch. -/
def bitmapDensity : Nat := 3780

def bitmapFieldsSize : Nat := 40

/-- The fields of a bitmap: their own size, its sides, one plane of `24` bits, and its density. -/
def bitmapFields (image : Image) : List UInt8 :=
  longWord bitmapFieldsSize ++ longWord image.width ++ longWord image.height ++ shortWord 1 ++ shortWord 24 ++
    longWord 0 ++ longWord (bitmapStride image * image.height) ++ longWord bitmapDensity ++ longWord bitmapDensity ++
    longWord 0 ++ longWord 0

def bitmapRows (image : Image) : List UInt8 :=
  image.rows.reverse.flatMap fun row =>
    row.flatMap backwardBytes ++ List.replicate (bitmapStride image - image.width * 3) 0

/-- A bitmap without what only files have. -/
def bareBitmap (image : Image) : ImageContent := ⟨bitmapFields image, some (bitmapRows image)⟩

/-- A bitmap behind the size of its file and the place of its pixels. -/
def bitmap (image : Image) : ImageContent :=
  let place := 14 + bitmapFieldsSize
  ⟨ascii "BM" ++ longWord (place + bitmapStride image * image.height) ++ longWord 0 ++ longWord place ++
    bitmapFields image, some (bitmapRows image)⟩

/-- A field of a tagged image: a number, or the place of several. -/
structure TaggedField where
  tag : Nat
  kind : Nat
  count : Nat
  value : Nat

def TaggedField.bytes (f : TaggedField) : List UInt8 :=
  shortWord f.tag ++ shortWord f.kind ++ longWord f.count ++ longWord f.value

/-- The place of the bits of the three colours, behind ten fields. -/
def taggedExtras : Nat := 8 + 2 + 10 * 12 + 4

def tagged (image : Image) : ImageContent :=
  let fields : List TaggedField :=
    [⟨256, 4, 1, image.width⟩, ⟨257, 4, 1, image.height⟩, ⟨258, 3, 3, taggedExtras⟩, ⟨259, 3, 1, 1⟩, ⟨262, 3, 1, 2⟩,
      ⟨273, 4, 1, taggedExtras + 6⟩, ⟨277, 3, 1, 3⟩, ⟨278, 4, 1, image.height⟩,
      ⟨279, 4, 1, image.width * image.height * 3⟩, ⟨284, 3, 1, 1⟩]
  ⟨ascii "II*" ++ [0] ++ longWord 8 ++ shortWord fields.length ++ fields.flatMap TaggedField.bytes ++ longWord 0 ++
    shortWord 8 ++ shortWord 8 ++ shortWord 8, some (downward colourBytes image)⟩

/-- A texture: its sides, the bytes of a row, and the bits of each colour in a pixel. -/
def texture (image : Image) : ImageContent where
  head := ascii "DDS " ++ longWord 124 ++ longWord 0x100F ++ longWord image.height ++ longWord image.width ++
    longWord (image.width * 3) ++ List.replicate 52 0 ++ longWord 32 ++ longWord 0x40 ++ longWord 0 ++ longWord 24 ++
    longWord 0xFF0000 ++ longWord 0xFF00 ++ longWord 0xFF ++ longWord 0 ++ longWord 0x1000 ++ List.replicate 16 0
  rest? := some (downward backwardBytes image)

/-- What an image of planes starts with: plain bytes, and three dimensions. -/
def planesStart : List UInt8 := highShortWord 474 ++ [0, 1] ++ highShortWord 3

def planesNameRoom : Nat := 79

/-- The three colours one after the other, each with its rows from the bottom. The name of the file stands in it
without its suffix. -/
def planes (name : List Char) (image : Image) : ImageContent :=
  let stem := (name.reverse.dropWhile (· ≠ '.')).tail.reverse
  let shown := (ascii (String.ofList (stem.filter fun c => c.toNat < 128))).take planesNameRoom
  ⟨planesStart ++ highShortWord image.width ++ highShortWord image.height ++ highShortWord 3 ++ highLongWord 0 ++
      highLongWord 255 ++ highLongWord 0 ++ shown ++ List.replicate (planesNameRoom + 1 - shown.length) 0 ++
      List.replicate 408 0,
    some ([Colour.red, Colour.green, Colour.blue].flatMap fun part => upward (fun c => [part c]) image)⟩

end TurtleGraphics.ImageContent
