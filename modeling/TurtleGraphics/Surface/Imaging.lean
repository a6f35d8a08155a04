import TurtleGraphics.Surface.Image
import TurtleGraphics.Surface.Mark

/-! The library that makes images and paints on them. What it refuses is for the library to say. -/

namespace TurtleGraphics

class Imaging where
  /-- An image of one colour. -/
  blank : (width height : Int) → (background : LooseText) → Except ImagingFault Image
  /-- A line through marks. What is refused leaves the image as it was. -/
  line : Image → (ink : LooseText) → (lineWidth : Int) → Polyline → Except ImagingFault Image

end TurtleGraphics
