import TurtleGraphics.Text.LetterCase

/-! Texts in lower case. Two capitals have no lower case of their own: a capital I with a dot becomes two
characters, and a capital sigma becomes one of two letters by its place in the word. -/

namespace TurtleGraphics.Text

/-- Whether the first character that is not case ignorable is cased. -/
def meetsCased (text : List Char) : Bool :=
  match text.dropWhile isCaseIgnorable with
  | c :: _ => isCased c
  | [] => false

/-- Whether a letter ends a word: a letter comes before it, and none behind it. The text before it is reversed. -/
def endsWord (before behind : List Char) : Bool := meetsCased before && !meetsCased behind

/-- The lower case of a character between a reversed text and another text. -/
def lowerBetween (before : List Char) (c : Char) (behind : List Char) : List Char :=
  if c = 'Σ' then [if endsWord before behind then 'ς' else 'σ']
  else if c = 'İ' then ['i', '\u0307']
  else [lowerChar c]

def lowerFrom (before : List Char) : List Char → List Char
  | [] => []
  | c :: rest => lowerBetween before c rest ++ lowerFrom (c :: before) rest

def lower (text : List Char) : List Char := lowerFrom [] text

end TurtleGraphics.Text
