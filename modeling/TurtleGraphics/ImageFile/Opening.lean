import TurtleGraphics.ImageFile.Content

/-! What files start with whose format leaves the rest to an encoder. -/

namespace TurtleGraphics.ImageContent

/-- A file of which only the start is settled. -/
def opening (head : List UInt8) : ImageContent := ⟨head, none⟩

/-- A picture of three planes, with the sides as the last places of rows and columns. -/
def brush (image : Image) : ImageContent :=
  opening ([10, 5, 1, 8] ++ longWord 0 ++ shortWord (image.width - 1) ++ shortWord (image.height - 1) ++
    shortWord 100 ++ shortWord 100 ++ List.replicate 24 0 ++ List.replicate 24 0xFF ++ [0, 3] ++
    shortWord (image.width + image.width % 2) ++ shortWord 1 ++ shortWord image.width ++ shortWord image.height ++
    List.replicate 54 0)

/-- An image with a palette: its sides, and the mark and the size of the palette. -/
def paletteStart (size : UInt8) (image : Image) : List UInt8 :=
  ascii "GIF87a" ++ shortWord image.width ++ shortWord image.height ++ [0x80 + size, 0, 0]

/-- A drawing has no more than two colours. -/
def withPalette (image : Image) : ImageContent := opening (paletteStart 1 image)

def photograph : ImageContent := opening [0xFF, 0xD8, 0xFF, 0xE0]

/-- A photograph of wavelets. It stands in a box, but for one suffix. -/
def wavelets (name : List Char) : ImageContent :=
  if ".j2k".toList.isSuffixOf name then opening [0xFF, 0x4F, 0xFF, 0x51]
  else opening (highLongWord 12 ++ ascii "jP  " ++ [0x0D, 0x0A, 0x87, 0x0A])

/-- The colour of all pixels. -/
def onlyColour? (image : Image) : Option Colour :=
  image.pixels[0]?.bind fun c => if image.pixels.all (· = c) then some c else none

def webSquare : Nat := 16

/-- A web picture. Its sizes are settled when it is one square of one colour. -/
def webPicture (image : Image) : ImageContent :=
  let isSettled := image.width ≤ webSquare && image.height ≤ webSquare && (onlyColour? image).isSome
  opening (ascii "RIFF" ++ if isSettled then
    longWord 34 ++ ascii "WEBPVP8 " ++ longWord 22 ++ [0x30, 0x01, 0x00, 0x9D, 0x01, 0x2A] else [])

/-- One frame of a film: what it is compatible with, and the size of what tells of it. -/
def frame : ImageContent :=
  opening (highLongWord 32 ++ ascii "ftypavif" ++ longWord 0 ++ ascii "avifmif1miafMA1B" ++ highLongWord 235 ++
    ascii "meta")

/-- Pictures of several sizes behind the size of all of them. -/
def family : ImageContent := opening (ascii "icns")

/-- A document up to its picture: its header, and its list of one page. -/
def documentStart : List UInt8 :=
  ascii (String.join (["%PDF-1.4", "% created by Pillow PDF driver", "3 0 obj<<", "/Type /Catalog", "/Pages 4 0 R",
    ">>endobj", "4 0 obj<<", "/Type /Pages", "/Count 1", "/Kids [ 1 0 R ]", ">>endobj"].map (· ++ "\n")))

/-- The brightness of a colour and its shares of blue and red, each from `-128` to `127`. -/
def brightness (c : Colour) : Int × Int × Int :=
  let (r, g, b) := ((c.red.toNat : Int), (c.green.toNat : Int), (c.blue.toNat : Int))
  ((19595 * r + 38470 * g + 7471 * b + 32768) / 65536 - 128,
    (-11059 * r - 21709 * g + 32768 * b + 32767) / 65536, (32768 * r - 27439 * g - 5329 * b + 32767) / 65536)

/-- The number of binary digits of a number without its sign. -/
def digitCount (n : Int) : Nat := if n = 0 then 0 else n.natAbs.log2 + 1

/-- A share of blue or red in steps of nine eighths, rounded. -/
def step (share : Int) : Int := (16 * share + 9 * share.sign).tdiv 18

/-- The bits of a code for a number of digits, and of the digits, in a table of such codes. -/
def codeLength (table : List Nat) (n : Int) : Nat := table.getD (digitCount n) 0 + digitCount n

def photographFrame : Nat := 625

/-- The bytes of a photograph of one colour: each square after the first takes `32` bits. -/
def photographLength (image : Image) (c : Colour) : Nat :=
  let squares := (image.width + 15) / 16 * ((image.height + 15) / 16)
  let (light, blue, red) := brightness c
  let first := codeLength [2, 3, 3, 3, 3, 3, 4, 5, 6] light + codeLength [2, 2, 2, 3, 4, 5, 6, 7, 8] (step blue) +
    codeLength [2, 2, 2, 3, 4, 5, 6, 7, 8] (step red) + 26
  photographFrame + (first + 32 * (squares - 1) + 7) / 8

/-- A document whose picture is a photograph. The length of the photograph is known when it has one colour. -/
def document (image : Image) : ImageContent :=
  let picture := String.join (["1 0 obj<<", "/Type /XObject", "/Subtype /Image", s!"/Width {image.width}",
    s!"/Height {image.height}", "/Filter /DCTDecode", "/BitsPerComponent 8", "/ColorSpace /DeviceRGB"].map (· ++ "\n"))
  opening (documentStart ++ ascii (picture ++ "/Length ") ++
    match onlyColour? image with
    | some c => ascii s!"{photographLength image c}\n>>stream\n" ++ photograph.head
    | none => [])

end TurtleGraphics.ImageContent
