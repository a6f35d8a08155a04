import TurtleGraphics.Json.Basic
import TurtleGraphics.Decimal.Numeral
import TurtleGraphics.Text.Hex

/-! Reading JSON text. Beside the numbers of the standard, `NaN`, `Infinity` and `-Infinity` are read. -/

namespace TurtleGraphics.Json

/-- What readers differ in. The digits of integers are always bounded. -/
structure Dialect where
  /-- Whether the digits before a fraction or an exponent are bounded too. -/
  boundsFractions : Bool
  /-- How many brackets with something in them may be open at one place. -/
  deepest : Nat
  /-- How many digits there may be, behind a minus sign or without one. -/
  digits : (negative : Bool) → Nat
  /-- A binary64 number that is written out is never too long. -/
  enough (negative : Bool) : 17 ≤ digits negative

namespace Dialect

/-- Texts with fractions of any length. -/
def lenient (deepest : Nat) : Dialect := ⟨false, deepest, fun _ => Number.digitLimit, fun _ => by decide⟩

def strict : Dialect := ⟨true, 200, fun _ => Number.digitLimit, fun _ => by decide⟩

end Dialect

inductive SyntaxCause where
  | expectingValue
  | expectingName
  | expectingColon
  | expectingComma
  | extraData
  | unterminatedText
  | controlCharacter
  | invalidEscape
  | invalidUnicodeEscape
  | byteOrderMark
deriving DecidableEq

def SyntaxCause.text : SyntaxCause → String
  | .expectingValue => "Expecting value"
  | .expectingName => "Expecting property name enclosed in double quotes"
  | .expectingColon => "Expecting ':' delimiter"
  | .expectingComma => "Expecting ',' delimiter"
  | .extraData => "Extra data"
  | .unterminatedText => "Unterminated string starting at"
  | .controlCharacter => "Invalid control character at"
  | .invalidEscape => "Invalid \\escape"
  | .invalidUnicodeEscape => "Invalid \\uXXXX escape"
  | .byteOrderMark => "Unexpected UTF-8 BOM (decode using utf-8-sig)"

inductive Bracket where
  | array
  | object
deriving DecidableEq

/-- Why reading stopped: a syntax error, with the number of characters from its place to the end of the text,
too many digits, or too many open brackets. -/
inductive Stop where
  | malformed (cause : SyntaxCause) (remaining : Nat)
  | tooManyDigits (count : Nat)
  | tooDeep (bracket : Bracket)
deriving DecidableEq

/-- A value, and the text behind it. -/
abbrev Read (α : Type) := Except Stop (α × List Char)

def stop {α : Type} (cause : SyntaxCause) (remaining : Nat) : Read α := .error (.malformed cause remaining)

def isSpace (c : Char) : Bool := c = ' ' || c = '\t' || c = '\n' || c = '\r'

def skipSpace (text : List Char) : List Char := text.dropWhile isSpace

def isHighSurrogate (unit : Nat) : Bool := 0xD800 ≤ unit && unit < 0xDC00

def isLowSurrogate (unit : Nat) : Bool := 0xDC00 ≤ unit && unit < 0xE000

def unitPoint (unit : Nat) : CodePoint :=
  if isHighSurrogate unit || isLowSurrogate unit then .surrogate unit else .char (Char.ofNat unit)

def pairChar (high low : Nat) : Char := Char.ofNat (0x10000 + (high - 0xD800) * 0x400 + (low - 0xDC00))

/-- Code points in which each high surrogate with a low one behind it has become a character. -/
def joinPairs : List CodePoint → List CodePoint
  | [] => []
  | .char c :: rest => .char c :: joinPairs rest
  | .surrogate high :: .surrogate low :: rest =>
    if isHighSurrogate high && isLowSurrogate low then .char (pairChar high low) :: joinPairs rest
    else .surrogate high :: joinPairs (.surrogate low :: rest)
  | .surrogate unit :: rest => .surrogate unit :: joinPairs rest

def simpleEscape? (c : Char) : Option Char :=
  if c = '"' ∨ c = '\\' ∨ c = '/' then some c
  else if c = 'b' then some '\x08'
  else if c = 'f' then some '\x0c'
  else if c = 'n' then some '\n'
  else if c = 'r' then some '\r'
  else if c = 't' then some '\t'
  else none

def escapedUnit? (a b c d : Char) (behind : List Char) : Option Nat :=
  if behind.isEmpty then none else Text.readHex? 0 [a, b, c, d]

/-- The code points of a text behind its opening quote. All that stands behind that quote is `whole`. -/
def readPoints (whole : List Char) : List Char → Read (List CodePoint)
  | [] => stop .unterminatedText (whole.length + 1)
  | c :: rest =>
    if c = '"' then .ok ([], rest)
    else if c = '\\' then
      match rest with
      | [] => stop .unterminatedText (whole.length + 1)
      | e :: rest =>
        if e = 'u' then
          match rest with
          | a :: b :: c :: d :: more =>
            match escapedUnit? a b c d more with
            | some unit => (readPoints whole more).map fun p => (unitPoint unit :: p.1, p.2)
            | none => stop .invalidUnicodeEscape (more.length + 5)
          | _ => stop .invalidUnicodeEscape (rest.length + 1)
        else
          match simpleEscape? e with
          | some e => (readPoints whole rest).map fun p => (.char e :: p.1, p.2)
          | none => stop .invalidEscape (rest.length + 2)
    else if c.toNat < 32 then stop .controlCharacter (rest.length + 1)
    else (readPoints whole rest).map fun p => (.char c :: p.1, p.2)

def readString (text : List Char) : Read LooseText :=
  (readPoints text text).map fun p => (.ofPoints (joinPairs p.1), p.2)

/-- The digits before a point: a zero stands alone. -/
def wholeDigits : List Char → List Char
  | '0' :: _ => ['0']
  | text => text.takeWhile Char.isDigit

def fractionDigits : List Char → List Char × List Char
  | '.' :: rest =>
    let digits := rest.takeWhile Char.isDigit
    if digits.isEmpty then ([], '.' :: rest) else (digits, rest.dropWhile Char.isDigit)
  | text => ([], text)

def exponentPart : List Char → Option Int × List Char
  | [] => (none, [])
  | mark :: rest =>
    if mark = 'e' ∨ mark = 'E' then
      let (negative, behind) := Numeral.splitSign rest
      let digits := behind.takeWhile Char.isDigit
      if digits.isEmpty then (none, mark :: rest)
      else (some (Numeral.signedNat negative (Nat.ofDigitChars 10 digits 0)), behind.dropWhile Char.isDigit)
    else (none, mark :: rest)

def splitMinus : List Char → Bool × List Char
  | '-' :: rest => (true, rest)
  | text => (false, text)

/-- An integer when there is neither a fraction nor an exponent, and else the nearest binary64 number. -/
def readNumber (d : Dialect) (text : List Char) : Read Json :=
  let (negative, body) := splitMinus text
  let whole := wholeDigits body
  if whole.isEmpty then stop .expectingValue text.length
  else
    let (fraction, rest) := fractionDigits (body.drop whole.length)
    let (power, rest) := exponentPart rest
    let isInteger := fraction.isEmpty && power.isNone
    if (isInteger || d.boundsFractions) && d.digits negative < whole.length then .error (.tooManyDigits whole.length)
    else if isInteger then .ok (.int (Numeral.signedNat negative (Nat.ofDigitChars 10 whole 0)), rest)
    else .ok (.float (.ofDecimal negative (.ofDigits whole fraction (power.getD 0))), rest)

def words : List (List Char × Json) :=
  [("null".toList, .null), ("true".toList, .bool true), ("false".toList, .bool false),
    ("NaN".toList, .float .notANumber), ("Infinity".toList, .float (.infinite false)),
    ("-Infinity".toList, .float (.infinite true))]

/-- The value of a word that the text starts with, and the text behind it. -/
def word? (text : List Char) : Option (Json × List Char) :=
  (words.find? fun w => w.1.isPrefixOf text).map fun w => (w.2, text.drop w.1.length)

/-- The name of a member with its colon, and the text where the value starts. -/
def readName : List Char → Read LooseText
  | '"' :: text =>
    match readString text with
    | .error s => .error s
    | .ok (name, rest) =>
      match skipSpace rest with
      | ':' :: rest => .ok (name, skipSpace rest)
      | rest => stop .expectingColon rest.length
  | text => stop .expectingName text.length

/-- Reads what stands in a bracket, if one more bracket may be opened. -/
def enter {α : Type} (bracket : Bracket) (room : Nat) (read : (room : Nat) → Read α) : Read α :=
  match room with
  | 0 => .error (.tooDeep bracket)
  | room + 1 => read room

mutual

/-- A value at the start of a text. The fuel bounds the nesting of calls, and the room that of brackets. -/
def readValue (d : Dialect) : (fuel room : Nat) → List Char → Read Json
  | 0, _, text => stop .expectingValue text.length
  | _ + 1, _, [] => stop .expectingValue 0
  | fuel + 1, room, c :: rest =>
    if c = '"' then (readString rest).map fun p => (.string p.1, p.2)
    else if c = '[' then
      match skipSpace rest with
      | ']' :: rest => .ok (.array [], rest)
      | rest => (enter .array room fun room => readItems d fuel room rest).map fun p => (.array p.1, p.2)
    else if c = '\x7b' then
      match skipSpace rest with
      | '\x7d' :: rest => .ok (.object [], rest)
      | rest => (enter .object room fun room => readMembers d fuel room rest).map fun p => (.object p.1, p.2)
    else match word? (c :: rest) with
      | some p => .ok p
      | none => readNumber d (c :: rest)

def readItems (d : Dialect) : (fuel room : Nat) → List Char → Read (List Json)
  | 0, _, text => stop .expectingValue text.length
  | fuel + 1, room, text =>
    match readValue d fuel room text with
    | .error s => .error s
    | .ok (item, rest) =>
      match skipSpace rest with
      | ']' :: rest => .ok ([item], rest)
      | ',' :: rest => (readItems d fuel room (skipSpace rest)).map fun p => (item :: p.1, p.2)
      | rest => stop .expectingComma rest.length

def readMembers (d : Dialect) : (fuel room : Nat) → List Char → Read (List (LooseText × Json))
  | 0, _, text => stop .expectingName text.length
  | fuel + 1, room, text =>
    match readName text with
    | .error s => .error s
    | .ok (name, rest) =>
      match readValue d fuel room rest with
      | .error s => .error s
      | .ok (value, rest) =>
        match skipSpace rest with
        | '\x7d' :: rest => .ok ([(name, value)], rest)
        | ',' :: rest => (readMembers d fuel room (skipSpace rest)).map fun p => ((name, value) :: p.1, p.2)
        | rest => stop .expectingComma rest.length

end

/-- A whole text as one value, with blanks around it. -/
def readAll (d : Dialect) (text : List Char) : Except Stop Json :=
  match readValue d (2 * text.length + 2) d.deepest (skipSpace text) with
  | .error s => .error s
  | .ok (value, rest) =>
    match skipSpace rest with
    | [] => .ok value
    | rest => .error (.malformed .extraData rest.length)

/-- Why a text is not JSON. Lines and columns count from one, the index from zero. -/
inductive ReadFault where
  | malformed (cause : SyntaxCause) (line column index : Nat)
  | tooManyDigits (count : Nat)
  | tooDeep (bracket : Bracket)
deriving DecidableEq

def Bracket.name : Bracket → String
  | .array => "array"
  | .object => "object"

def ReadFault.message : ReadFault → String
  | .malformed cause line column index => s!"{cause.text}: line {line} column {column} (char {index})"
  | .tooManyDigits count =>
    s!"Exceeds the limit (4300 digits) for integer string conversion: value has {count} digits; " ++
      "use sys.set_int_max_str_digits() to increase the limit"
  | .tooDeep bracket => s!"maximum recursion depth exceeded while decoding a JSON {bracket.name} from a unicode string"

/-- The line and the column behind a text. -/
def endPosition (text : List Char) : Nat × Nat :=
  (text.count '\n' + 1, (text.reverse.takeWhile (· ≠ '\n')).length + 1)

def locate (text : List Char) : Stop → ReadFault
  | .tooManyDigits count => .tooManyDigits count
  | .tooDeep bracket => .tooDeep bracket
  | .malformed cause remaining =>
    let index := text.length - remaining
    let position := endPosition (text.take index)
    .malformed cause position.1 position.2 index

/-- Reads a text. A byte order mark is not skipped. -/
def parse (d : Dialect) (text : List Char) : Except ReadFault Json :=
  if text.head? = some '\uFEFF' then .error (.malformed .byteOrderMark 1 1 0)
  else (readAll d text).mapError (locate text)

/-- Reads a strict text, in which every surrogate has its other half. -/
def parseStrict? (text : List Char) : Option Json :=
  match parse .strict text with
  | .ok j => if j.isWhole then some j else none
  | .error _ => none

end TurtleGraphics.Json
