/-! Why an image cannot be saved. -/

namespace TurtleGraphics

/-- The refusals of image formats. Some formats keep the sides of an image in fields of a fixed width, others leave
its size to an encoder. -/
inductive ImageFault where
  /-- No format has this suffix. -/
  | unknownFormat (suffix : String)
  /-- Images of the format are only ever read. -/
  | readOnly (suffix : String)
  /-- The format does not keep images of three colours. -/
  | unfit (suffix : String)
  /-- The format only keeps images with a palette. -/
  | noPalette
  /-- The image has no pixels. -/
  | empty
  /-- No memory is given for an image without pixels. -/
  | noMemory
  /-- A side is too long for an icon. -/
  | longForIcon
  /-- A side is too long for a field of the file. -/
  | longForField
  /-- A side is too long for a field that is packed with others. -/
  | longForPacking
  /-- The encoder refuses a side of this length. -/
  | longForEncoder
  /-- A side is longer than the format lets it be. -/
  | longForFormat
  /-- A side is too long for a frame of a film. -/
  | longForFrame
  /-- The name of the file is kept in the file, and is not ASCII text. -/
  | nameNotAscii
deriving DecidableEq

namespace ImageFault

def message : ImageFault → String
  | .unknownFormat suffix => s!"unknown file extension: {suffix}"
  | .readOnly suffix => s!"cannot write {suffix} files"
  | .unfit suffix => s!"cannot write this image as {suffix}"
  | .noPalette => "Unsupported BLP image mode"
  | .empty => "tile cannot extend outside image"
  | .noMemory => "can't allocate picture frame"
  | .longForIcon => "image is too large for an icon"
  | .longForField => "int too big to convert"
  | .longForPacking => "'H' format requires 0 <= number <= 65535"
  | .longForEncoder => "encoder error -2 when writing image file"
  | .longForFormat => "encoding error 5: Image size exceeds WebP limit of 16383 pixels"
  | .longForFrame => "Failed to encode image: Encoding of color planes failed"
  | .nameNotAscii => "'ascii' codec can't encode the name of the file"

end ImageFault

end TurtleGraphics
