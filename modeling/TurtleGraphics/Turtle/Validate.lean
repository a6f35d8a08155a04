import TurtleGraphics.Turtle.Basic

/-! The validators: which data are points, headings and pen states. -/

namespace TurtleGraphics.Validate

/-- The two coordinates that a datum holds, not yet looked at. -/
def coordinates : Datum → Except Fault (Datum × Datum)
  | .point x y => .ok (x, y)
  | .dict entries =>
    match Datum.lookup? "x" entries, Datum.lookup? "y" entries with
    | some x, some y => .ok (x, y)
    | none, _ => .error (.domain (.missingCoordinate "x"))
    | _, none => .error (.domain (.missingCoordinate "y"))
  | .list [x, y] | .tuple [x, y] => .ok (x, y)
  | .bytes [x, y] => .ok (.int x.toNat, .int y.toNat)
  | .brokenText [x, y] => .ok (.ofLooseText (.ofPoints [x]), .ofLooseText (.ofPoints [y]))
  | value =>
    match value.text?.map String.toList with
    | some [x, y] => .ok (.text (String.singleton x), .text (String.singleton y))
    | _ => .error (.domain (.notPair value))

/-- Whether a number is finite, when it is one that can be asked. -/
def finite (x : Number) : Except Fault Bool :=
  match x.isFinite? with
  | some b => .ok b
  | none => .error .integerTooLarge

/-- A point of finite coordinates. The second is looked at only when the first is finite. -/
def finitePoint (p : Point) : Except Fault Point := do
  if ← finite p.x then
    if ← finite p.y then return p
  throw (.domain (.coordinatesNotFinite p.x p.y))

def point (value : Datum) : Except Fault Point := do
  let (x, y) ← coordinates value
  match x, y with
  | .number x, .number y => finitePoint ⟨x, y⟩
  | x, y => throw (.domain (.coordinatesNotNumbers x y))

def lowestHeading : Number := .int (-360)

def highestHeading : Number := .int 360

/-- A heading lies in the closed range of one full turn either way. -/
def inRange (heading : Number) : Bool := lowestHeading.le heading && heading.le highestHeading

def headingNumber (heading : Number) : Except Fault Number :=
  if inRange heading then .ok heading else .error (.domain (.headingOutOfRange heading))

def heading : Datum → Except Fault Number
  | .number x => headingNumber x
  | _ => .error (.domain .headingNotNumber)

def pen (value : Datum) : Except Fault Pen :=
  match value with
  | .brokenText _ => .error (.domain (.penUnknown value))
  | _ =>
    match value.text? with
    | none => .error (.domain (.penNotText value))
    | some s =>
      match Pen.ofText? s with
      | some p => .ok p
      | none => .error (.domain (.penUnknown value))

def distance (value : Datum) : Except Fault Number :=
  match value with
  | .number x => do
    if ← finite x then return x
    throw (.domain (.distanceNotFinite x))
  | _ => .error (.domain (.distanceNotNumber value))

/-- A turtle from raw data, looked at in the order of its fields. -/
def turtle (positionValue headingValue penValue : Datum) : Except Fault Turtle := do
  return { position := ← point positionValue, heading := ← heading headingValue, pen := ← pen penValue }

end TurtleGraphics.Validate
