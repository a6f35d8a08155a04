import TurtleGraphics.Schema.Issue

/-! The library that validates what was read: how it reads scripts, and what it takes for a field of a given type. -/

namespace TurtleGraphics

class Validation where
  /-- The value of a byte string that is JSON text. -/
  strictJson? : List UInt8 → Option Json
  /-- A text of characters. -/
  text : Json → Except IssueCause String
  finiteNumber : Json → Except IssueCause Binary64
  isFinite_finiteNumber {j : Json} {x : Binary64} (h : finiteNumber j = .ok x) : x.isFinite = true
  /-- A text, with surrogates or without. -/
  looseText : Json → Except IssueCause LooseText
  anyNumber : Json → Except IssueCause Binary64
  integer : Json → Except IssueCause Int

end TurtleGraphics
