import TurtleGraphics.Surface.Mark

/-! A surface that keeps strokes as polylines. A stroke that starts where the last one ended extends it. -/

namespace TurtleGraphics

structure Recorder where
  paths : List Polyline
  cursor : Mark
  moves : Nat
  strokes : Nat
  /-- The marks of the stroke that is being drawn. -/
  pending : Polyline
  /-- Whether the cursor stands where the last line ended, not moved since. -/
  resting : Bool
  /-- Whether the pending stroke started at the end of the last one, without a move between them. -/
  continuing : Bool

namespace Recorder

def empty : Recorder := ⟨[], .origin, 0, 0, [], false, false⟩

/-- The marks of a stroke after one more line. It starts at the cursor. -/
def extendPending (pending : Polyline) (cursor m : Mark) : Polyline :=
  match pending with
  | [] => [cursor, m]
  | _ => pending ++ [m]

/-- Whether a stroke extends the path before it: it starts at an equal mark, or, when its start is a mark that
does not even equal itself, at the very mark where the path ended. -/
def goesOn (continuing : Bool) (path : Polyline) (first : Mark) : Bool :=
  path.endsAt first || (continuing && !first.same first)

/-- Adds the stroke `first :: rest`, to the last path if it extends that. -/
def join (continuing : Bool) (first : Mark) (rest : Polyline) : List Polyline → List Polyline
  | [] => [first :: rest]
  | [path] => if goesOn continuing path first then [path ++ rest] else [path, first :: rest]
  | path :: next :: paths => path :: join continuing first rest (next :: paths)

def moveTo (r : Recorder) (m : Mark) : Recorder :=
  { r with cursor := m, moves := r.moves + 1, resting := false }

def lineTo (r : Recorder) (m : Mark) : Recorder :=
  { r with
    cursor := m
    pending := extendPending r.pending r.cursor m
    resting := true
    continuing := if r.pending.isEmpty then r.resting else r.continuing }

/-- Commits the pending marks. Fewer than two are dropped and count for nothing. -/
def stroke (r : Recorder) : Recorder :=
  match r.pending with
  | first :: second :: rest =>
    { r with paths := join r.continuing first (second :: rest) r.paths, strokes := r.strokes + 1, pending := [] }
  | _ => { r with pending := [] }

/-- Every line that was committed, in order. -/
def segments (r : Recorder) : List (Mark × Mark) := r.paths.flatMap Polyline.segments

def marks (r : Recorder) : List Mark := r.paths.flatten

def bounds (r : Recorder) : Except Fault (Option Bounds) :=
  match r.marks with
  | [] => .ok none
  | first :: rest => (Bounds.ofMarks first rest).map some

end Recorder

end TurtleGraphics
