import TurtleGraphics.ImageFile.Fault
import TurtleGraphics.ImageFile.Icon
import TurtleGraphics.ImageFile.Layout
import TurtleGraphics.ImageFile.Opening
import TurtleGraphics.ImageFile.Qoi

/-! The formats of image files: their suffixes, the images they refuse, and what they write. -/

namespace TurtleGraphics

/-- Reasons to refuse an image, by the name of its file and by its width and height. -/
abbrev Refusal := (name : List Char) → (width height : Nat) → Option ImageFault

namespace Refusal

def never : Refusal := fun _ _ _ => none

def always (fault : ImageFault) : Refusal := fun _ _ _ => some fault

def ofEmpty (fault : ImageFault) : Refusal := fun _ width height =>
  if width = 0 ∨ height = 0 then some fault else none

/-- Refuses images that are wider or higher than two bounds. -/
def beyond (widest highest : Nat) (fault : ImageFault) : Refusal := fun _ width height =>
  if widest < width ∨ highest < height then some fault else none

/-- The second reasons are looked at when none of the first ones holds. -/
def andThen (first second : Refusal) : Refusal := fun name width height =>
  (first name width height).or (second name width height)

/-- The icon of an image that is not shrunk has the sides of the image. -/
def ofIcon : Refusal := fun name width height =>
  if Icon.isShrunk width height then none
  else andThen (beyond Icon.longestSide Icon.longestSide .longForIcon) (ofEmpty .empty) name width height

def nameRoom : Nat := 92

/-- The name in a label: when it is too long, the characters before its suffix are cut. -/
def labelName (name : List Char) : List Char :=
  let suffix := '.' :: (name.reverse.takeWhile (· ≠ '.')).reverse
  (name.take (name.length - suffix.length)).take (nameRoom - suffix.length) ++ suffix

def ofLabel : Refusal := fun name _ _ =>
  if (labelName name).all fun c => c.toNat < 128 then none else some .nameNotAscii

end Refusal

/-- What stands in a file, by its name, when the image for it was refused. -/
abbrev Remains := (name : List Char) → Image → ImageFault → List UInt8

namespace Remains

/-- The image is looked at before anything is written. -/
def nothing : Remains := fun _ _ _ => []

/-- What comes before the pixels is written when it is found that there are none. -/
def headOf (content : List Char → Image → ImageContent) : Remains := fun name image fault =>
  if fault = .empty then (content name image).head else []

/-- A label is written line by line, and breaks off before a name that it cannot hold. -/
def ofLabel (content : List Char → Image → ImageContent) : Remains := fun name image fault =>
  if fault = .nameNotAscii then ImageContent.labelStart else headOf content name image fault

/-- No palette is written for an image without colours. -/
def ofPalette : Remains := fun _ image fault => if fault = .empty then ImageContent.paletteStart 0 image else []

/-- The parts of a document that come before its only picture. -/
def ofDocument : Remains := fun _ _ _ => ImageContent.documentStart

/-- The number of icons is written when their sides are known to fit, and the sides of the icon after it. -/
def ofIcon : Remains := fun _ image fault =>
  Icon.start ++ if fault = .empty then ImageContent.shortWord 1 ++ Icon.sizeFields image else []

/-- The sides are written one after the other, up to one that is too long. -/
def ofPlanes (capacity : Nat) : Remains := fun _ image _ =>
  ImageContent.planesStart ++ if image.width ≤ capacity then ImageContent.highShortWord image.width else []

end Remains

structure ImageFormat where
  suffixes : List String
  refuses : Refusal
  /-- What stands in a file by its name. -/
  content : List Char → Image → ImageContent
  remains : Remains

namespace ImageFormat

def careful (suffixes : List String) (refuses : Refusal) (content : List Char → Image → ImageContent) : ImageFormat :=
  ⟨suffixes, refuses, content, .nothing⟩

/-- A format that writes what comes before the pixels at once, and has no limits. -/
def hasty (suffixes : List String) (content : List Char → Image → ImageContent) : ImageFormat :=
  ⟨suffixes, .ofEmpty .empty, content, .headOf content⟩

def refusing (suffix : String) (fault : ImageFault) : ImageFormat :=
  careful [suffix] (.always fault) fun _ _ => .opening []

/-- The greatest number that two bytes hold. -/
def fieldCapacity : Nat := 65535

def photographSide : Nat := 65500

def webSide : Nat := 16383

def filmSide : Nat := 65536

open Refusal

/-- Refuses images with a side that two bytes do not hold. -/
def ofField (fault : ImageFault) : Refusal := beyond fieldCapacity fieldCapacity fault

def ofPhotograph : Refusal := andThen (ofEmpty .empty) (beyond photographSide photographSide .longForEncoder)

def labelledContent (name : List Char) : Image → ImageContent := .labelled (labelName name)

def written : List ImageFormat :=
  [hasty [".apng", ".png"] fun _ image => .opening (Png.header image),
    hasty [".bmp"] fun _ => .bitmap,
    hasty [".dib"] fun _ => .bareBitmap,
    hasty [".dds"] fun _ => .texture,
    hasty [".tif", ".tiff"] fun _ => .tagged,
    hasty [".qoi"] fun _ => Qoi.encode,
    hasty [".pbm", ".pfm", ".pgm", ".pnm", ".ppm"] fun _ => .pixmap,
    hasty [".eps", ".ps"] fun _ => .postScript,
    ⟨[".im"], andThen ofLabel (ofEmpty .empty), labelledContent, .ofLabel labelledContent⟩,
    ⟨[".icb", ".tga", ".vda", ".vst"], andThen (ofField .longForField) (ofEmpty .empty), fun _ => .targa,
      .headOf fun _ => .targa⟩,
    ⟨[".gif"], andThen (ofField .longForField) (ofEmpty .empty), fun _ => .withPalette, .ofPalette⟩,
    careful [".pcx"] (andThen (ofEmpty .empty) (beyond (fieldCapacity - 1) fieldCapacity .longForField))
      fun _ => .brush,
    careful [".j2c", ".j2k", ".jp2", ".jpc", ".jpf", ".jpx"] (ofEmpty .empty) fun name _ => .wavelets name,
    careful [".jfif", ".jpe", ".jpeg", ".jpg", ".mpo"] ofPhotograph fun _ _ => .photograph,
    ⟨[".pdf"], ofPhotograph, fun _ => .document, .ofDocument⟩,
    careful [".avif", ".avifs"] (andThen (ofEmpty .empty) (beyond filmSide filmSide .longForFrame)) fun _ _ => .frame,
    careful [".webp"] (andThen (ofEmpty .noMemory) (beyond webSide webSide .longForFormat)) fun _ => .webPicture,
    ⟨[".bw", ".rgb", ".rgba", ".sgi"], ofField .longForPacking, .planes, .ofPlanes fieldCapacity⟩,
    ⟨[".ico"], ofIcon, fun _ => Icon.content, .ofIcon⟩,
    careful [".icns"] never fun _ _ => .family,
    refusing ".blp" .noPalette] ++
  [".bufr", ".emf", ".grib", ".h5", ".hdf", ".msp", ".palm", ".wmf", ".xbm"].map fun suffix =>
    refusing suffix (.unfit suffix)

/-- The suffixes of the formats that are only read. -/
def readOnly : List String :=
  [".cur", ".dcx", ".fit", ".fits", ".flc", ".fli", ".ftc", ".ftu", ".gbr", ".iim", ".mpeg", ".mpg", ".pcd", ".psd",
    ".pxr", ".ras", ".xpm"]

def ofSuffix (suffix : String) : Except ImageFault ImageFormat :=
  match written.find? (·.suffixes.contains suffix) with
  | some format => .ok format
  | none => .error (if readOnly.contains suffix then .readOnly suffix else .unknownFormat suffix)

def refusal? (format : ImageFormat) (name : List Char) (image : Image) : Option ImageFault :=
  format.refuses name image.width image.height

/-- What stands in an image file, by its suffix and its name. -/
def contentOf? (suffix : String) (name : List Char) (image : Image) : Option ImageContent :=
  match ofSuffix suffix with
  | .ok format => some (format.content name image)
  | .error _ => none

end ImageFormat

end TurtleGraphics
