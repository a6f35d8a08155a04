import TurtleGraphics.Fault

/-! The order of data: numbers by exact value, texts and byte strings from the left, lists and tuples by the first
place where they differ. Data of two kinds have no order. -/

namespace TurtleGraphics

/-- A relation that says what comes first, read in one of its two directions. -/
def Order.relates {α : Type} (order : Order) (before : α → α → Bool) (a b : α) : Bool :=
  match order with
  | .less => before a b
  | .greater => before b a

namespace CodePoint

def code : CodePoint → Nat
  | .char c => c.toNat
  | .surrogate unit => unit

end CodePoint

namespace Datum

def codes? : Datum → Option (List Nat)
  | .brokenText points => some (points.map CodePoint.code)
  | d => d.text?.map fun s => s.toList.map Char.toNat

def codesBefore (a b : List Nat) : Bool := a < b

mutual

def inOrder (order : Order) : Datum → Datum → Except Fault Bool
  | .bytes a, .bytes b => .ok (order.relates codesBefore (a.map UInt8.toNat) (b.map UInt8.toNat))
  | .list a, .list b => allInOrder order a b
  | .tuple a, .tuple b => allInOrder order a b
  | a, b =>
    match a.number?, b.number?, a.codes?, b.codes? with
    | some x, some y, _, _ => .ok (order.relates Number.lt x y)
    | _, _, some s, some t => .ok (order.relates codesBefore s t)
    | _, _, _, _ => .error (.notOrdered order a b)
termination_by structural a => a

/-- The first items that differ decide, and then the lengths. -/
def allInOrder (order : Order) : List Datum → List Datum → Except Fault Bool
  | a :: rest, b :: more => if a.same b then allInOrder order rest more else inOrder order a b
  | a, b => .ok (order.relates (fun a b : List Datum => a.isEmpty && !b.isEmpty) a b)
termination_by structural a => a

end

/-- The first datum that no later one beats. -/
def extreme (order : Order) (best : Datum) : List Datum → Except Fault Datum
  | [] => .ok best
  | d :: rest => do
    if ← inOrder order d best then extreme order d rest else extreme order best rest

end Datum

end TurtleGraphics
