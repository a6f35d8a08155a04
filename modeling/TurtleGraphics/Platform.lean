import TurtleGraphics.Binary64.Circular

/-! What programs take from the machine that they run on. -/

namespace TurtleGraphics

/-- How cosines and sines of angles in radians are rounded, and how much room there is to read nested texts. -/
class Platform where
  cosine : Binary64 → Binary64
  sine : Binary64 → Binary64
  isFinite_cosine {angle : Binary64} (h : angle.isFinite = true) : (cosine angle).isFinite = true
  isFinite_sine {angle : Binary64} (h : angle.isFinite = true) : (sine angle).isFinite = true
  /-- How many brackets of a settings file may be open at one place. -/
  jsonDepth : Nat
  /-- Settings have sections, and nothing inside the sections. -/
  jsonDepth_ge : 2 ≤ jsonDepth

end TurtleGraphics
