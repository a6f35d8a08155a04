/-! Hexadecimal digits, written in lower case and read in either. -/

namespace TurtleGraphics.Text

/-- The last `width` hexadecimal digits of a number. -/
def hex : (width : Nat) → Nat → List Char
  | 0, _ => []
  | width + 1, n => hex width (n / 16) ++ [Nat.digitChar (n % 16)]

def hexValue? (c : Char) : Option Nat :=
  if '0' ≤ c ∧ c ≤ '9' then some (c.toNat - '0'.toNat)
  else if 'a' ≤ c ∧ c ≤ 'f' then some (c.toNat - 'a'.toNat + 10)
  else if 'A' ≤ c ∧ c ≤ 'F' then some (c.toNat - 'A'.toNat + 10)
  else none

/-- The number that a text of hexadecimal digits continues. -/
def readHex? : (value : Nat) → List Char → Option Nat
  | value, [] => some value
  | value, c :: rest => (hexValue? c).bind fun d => readHex? (16 * value + d) rest

theorem hexValue?_digitChar {d : Nat} (h : d < 16) : hexValue? (Nat.digitChar d) = some d := by
  have : ∀ d : Fin 16, hexValue? (Nat.digitChar d) = some d.val := by decide
  exact this ⟨d, h⟩

theorem readHex?_append (value : Nat) (a b : List Char) :
    readHex? value (a ++ b) = (readHex? value a).bind fun v => readHex? v b := by
  induction a generalizing value with
  | nil => rfl
  | cons c a ih => cases h : hexValue? c <;> simp [readHex?, h, ih]

/-- Reading undoes writing, up to the digits that were not written. -/
theorem readHex?_hex (value width n : Nat) :
    readHex? value (hex width n) = some (Nat.pow 16 width * value + n % Nat.pow 16 width) := by
  simp only [Nat.pow_eq]
  induction width generalizing n with
  | zero => simp [hex, readHex?, Nat.mod_one]
  | succ w ih =>
    simp only [hex, readHex?_append, ih, Option.bind_some, readHex?,
      hexValue?_digitChar (Nat.mod_lt n (by decide))]
    have h := Nat.mod_mul (x := n) (a := 16) (b := 16 ^ w)
    rw [Nat.pow_succ, Nat.mul_comm (16 ^ w) 16, h]
    simp only [Nat.mul_add, Nat.mul_assoc, Option.some.injEq]
    omega

end TurtleGraphics.Text
