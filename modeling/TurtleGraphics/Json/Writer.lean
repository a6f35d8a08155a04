import TurtleGraphics.Json.Basic
import TurtleGraphics.Text.Hex

/-! Writing JSON text in ASCII characters. -/

namespace TurtleGraphics.Json

/-- Values on one line, or each item on a line of its own behind a number of blanks for each level. -/
inductive Layout where
  | oneLine
  | indented (step : Nat)
deriving DecidableEq

namespace Layout

/-- No indentation asks for one line, and a negative one for lines without blanks. -/
def ofIndent : Option Int → Layout
  | none => .oneLine
  | some n => .indented n.toNat

/-- What stands before the first item and behind the last one. -/
def lineBreak (layout : Layout) (level : Nat) : List Char :=
  match layout with
  | .oneLine => []
  | .indented step => '\n' :: List.replicate (step * level) ' '

def separator (layout : Layout) (level : Nat) : List Char :=
  match layout with
  | .oneLine => [',', ' ']
  | .indented _ => ',' :: layout.lineBreak level

end Layout

/-- A backslash and the four digits of a code unit. -/
def unitEscape (unit : Nat) : List Char := '\\' :: 'u' :: Text.hex 4 unit

def escapeLetter? (c : Char) : Option Char :=
  if c = '"' ∨ c = '\\' then some c
  else if c = '\x08' then some 'b'
  else if c = '\x0c' then some 'f'
  else if c = '\n' then some 'n'
  else if c = '\r' then some 'r'
  else if c = '\t' then some 't'
  else none

/-- A character of a text: as it is, by one letter, by its code unit or by a pair of units. -/
def escapeChar (c : Char) : List Char :=
  match escapeLetter? c with
  | some letter => ['\\', letter]
  | none =>
    if 32 ≤ c.toNat ∧ c.toNat < 127 then [c]
    else if c.toNat < 0x10000 then unitEscape c.toNat
    else unitEscape (0xD800 + (c.toNat - 0x10000) / 0x400) ++ unitEscape (0xDC00 + (c.toNat - 0x10000) % 0x400)

def escapePoint : CodePoint → List Char
  | .char c => escapeChar c
  | .surrogate unit => unitEscape unit

def renderText (s : List Char) : List Char := '"' :: s.flatMap escapeChar ++ ['"']

def renderLoose : LooseText → List Char
  | .whole s => renderText s.toList
  | .broken points => '"' :: points.flatMap escapePoint ++ ['"']

def renderNumber : Binary64 → List Char
  | .notANumber => "NaN".toList
  | .infinite s => Binary64.signText s ++ "Infinity".toList
  | x => x.shortestText

mutual

def render (layout : Layout) (level : Nat) : Json → List Char
  | .null => "null".toList
  | .bool b => (if b then "true" else "false").toList
  | .int n => Number.intText n
  | .float x => renderNumber x
  | .string s => renderLoose s
  | .array [] => ['[', ']']
  | .array (j :: rest) =>
    '[' :: layout.lineBreak (level + 1) ++ render layout (level + 1) j ++ renderItems layout (level + 1) rest ++
      layout.lineBreak level ++ [']']
  | .object [] => ['\x7b', '\x7d']
  | .object (m :: rest) =>
    '\x7b' :: layout.lineBreak (level + 1) ++ renderMember layout (level + 1) m ++
      renderMembers layout (level + 1) rest ++ layout.lineBreak level ++ ['\x7d']
termination_by structural j => j

def renderItems (layout : Layout) (level : Nat) : List Json → List Char
  | [] => []
  | j :: rest => layout.separator level ++ render layout level j ++ renderItems layout level rest
termination_by structural items => items

def renderMembers (layout : Layout) (level : Nat) : List (LooseText × Json) → List Char
  | [] => []
  | m :: rest => layout.separator level ++ renderMember layout level m ++ renderMembers layout level rest
termination_by structural members => members

def renderMember (layout : Layout) (level : Nat) : LooseText × Json → List Char
  | (name, j) => renderLoose name ++ ':' :: ' ' :: render layout level j
termination_by structural m => m

end

def write (layout : Layout) (j : Json) : String := String.ofList (j.render layout 0)

end TurtleGraphics.Json
