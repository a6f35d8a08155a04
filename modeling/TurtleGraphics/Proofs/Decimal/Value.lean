import Mathlib.Tactic
import TurtleGraphics.Proofs.Binary64.Monotone
import TurtleGraphics.Proofs.Decimal.FreeText

/-! The exact values of written numbers. Two places of a larger number are worth no less. -/

namespace TurtleGraphics

/-- The rational numbers with the two infinities at their ends. -/
abbrev ExtendedRat := WithBot (WithTop ℚ)

def ExtendedRat.ofRat (q : ℚ) : ExtendedRat := ((q : WithTop ℚ) : WithBot (WithTop ℚ))

def Decimal.value (d : Decimal) : ℚ := d.coefficient * 10 ^ d.exponent

namespace Numeral

def signedValue (negative : Bool) (q : ℚ) : ℚ := if negative then -q else q

/-- What a text is worth exactly as it is written. A name of infinity stands for an end of the line, and what is not a
number for nothing. -/
def value? (text : List Char) : Option ExtendedRat :=
  let (negative, body) := splitSign text
  if infinityNames.contains (body.map Char.toLower) then some (if negative then ⊥ else ⊤)
  else (unsigned? body).map fun d => .ofRat (signedValue negative d.value)

open Json (SpellsSign SpellsPower)

theorem value?_of_spells {sign body : List Char} {negative : Bool} {d : Decimal} (signed : SpellsSign sign negative)
    (spelled : SpellsUnsigned body d) : value? (sign ++ body) = some (.ofRat (signedValue negative d.value)) := by
  obtain ⟨c, cs, hcons, hc⟩ := spelled.exists_cons
  have hother := spelled.not_isName
  unfold IsName at hother
  rw [List.mem_cons, not_or] at hother
  unfold value?
  rw [Json.splitSign_append signed ⟨c, cs, hcons, by rintro rfl; revert hc; decide, by rintro rfl; revert hc; decide⟩]
  dsimp only
  rw [if_neg (fun h => hother.2 (List.contains_iff_mem.mp h)), unsigned?_of_spells spelled]
  rfl

theorem spellsSign_signText (negative : Bool) : SpellsSign (Binary64.signText negative) negative := by
  cases negative with
  | false => exact .none
  | true => exact .minus

theorem value?_infiniteText (negative : Bool) :
    value? (Binary64.infiniteText negative) = some (if negative then ⊥ else ⊤) := by
  cases negative with
  | false => rfl
  | true => rfl

theorem isDigit_toDigits (n : Nat) : ∀ c ∈ Nat.toDigits 10 n, c.isDigit = true :=
  fun _ hc => Nat.isDigit_of_mem_toDigits (by decide) (by decide) hc

/-- Hundredths are written as digits with two of them behind the point. -/
theorem spells_placesText (n : Nat) : ∃ d, SpellsUnsigned (Binary64.placesText n) d ∧ d.value = n / 100 := by
  have htens : n % 100 / 10 < 10 := by omega
  have hones : n % 10 < 10 := Nat.mod_lt n (by decide)
  have hfraction : ∀ c ∈ Nat.toDigits 10 (n % 100 / 10) ++ Nat.toDigits 10 (n % 10), c.isDigit = true := by
    intro c hc
    rcases List.mem_append.mp hc with hc | hc
    · exact isDigit_toDigits _ c hc
    · exact isDigit_toDigits _ c hc
  have hspells := SpellsUnsigned.parts (isDigit_toDigits (n / 100)) (.digits hfraction) (.inl Nat.toDigits_ne_nil) .none
  rw [List.append_nil] at hspells
  refine ⟨_, hspells, ?_⟩
  have hcoefficient : 10 * (10 * (n / 100) + n % 100 / 10) + n % 10 = n := by omega
  unfold Decimal.ofDigits Decimal.value
  rw [Nat.toDigits_of_lt_base htens, Nat.toDigits_of_lt_base hones, Nat.ofDigitChars_append,
    Nat.ofDigitChars_ten_toDigits, List.singleton_append, Nat.ofDigitChars_cons_digitChar_of_lt_ten htens,
    Nat.ofDigitChars_cons_digitChar_of_lt_ten hones, Nat.ofDigitChars_nil, hcoefficient]
  simp only [Option.getD_none, List.length_cons, List.length_nil]
  norm_num
  ring

/-- What the two places of a number of units are worth. -/
def hundredths (units : Nat) : ℚ := (Rounding.nearest (units * 100) unitsPerOne : ℚ) / 100

theorem hundredths_mono {m n : Nat} (h : m ≤ n) : hundredths m ≤ hundredths n := by
  have hnearest := Rounding.nearest_mono (Nat.mul_le_mul_right 100 h) unitsPerOne
  unfold hundredths
  gcongr

theorem hundredths_zero : hundredths 0 = 0 := by
  have hnothing := Rounding.nearest_mul_self 0 unitsPerOne_pos
  unfold hundredths
  rw [Nat.zero_mul] at hnothing ⊢
  rw [hnothing]
  norm_num

def places (size : WithTop Nat) : ExtendedRat := ((size.map hundredths : WithTop ℚ) : WithBot (WithTop ℚ))

theorem places_mono {m n : WithTop Nat} (h : m ≤ n) : places m ≤ places n := by
  apply WithBot.coe_le_coe.mpr
  exact WithTop.monotone_map_iff.mpr (fun _ _ => hundredths_mono) h

theorem places_zero : places ((0 : Nat) : WithTop Nat) = 0 := by
  change ExtendedRat.ofRat (hundredths 0) = 0
  rw [hundredths_zero]
  rfl

theorem places_nonneg (size : WithTop Nat) : 0 ≤ places size := by
  rw [← places_zero]
  exact places_mono bot_le

theorem value?_finite (negative : Bool) (m : Magnitude) :
    value? (Binary64.finite negative m).hundredthsText = some (.ofRat (signedValue negative (hundredths m.units))) := by
  have hsteps : Decimal.nearestSteps m (-2) = Rounding.nearest (m.units * 100) unitsPerOne := by
    have hpower : Nat.pow 10 (-(-2 : Int)).toNat = 100 := rfl
    unfold Decimal.nearestSteps Decimal.steps
    rw [if_neg (by decide), hpower]
  obtain ⟨d, hd, hvalue⟩ := spells_placesText (Decimal.nearestSteps m (-2))
  have hworth : d.value = hundredths m.units := by rw [hvalue, hundredths, hsteps]
  have hspelled := value?_of_spells (spellsSign_signText negative) hd
  rw [hworth] at hspelled
  exact hspelled

theorem exists_value {x : Binary64} (h : x ≠ .notANumber) : ∃ value, value? x.hundredthsText = some value := by
  cases x with
  | notANumber => exact absurd rfl h
  | infinite negative => exact ⟨_, value?_infiniteText negative⟩
  | finite negative m => exact ⟨_, value?_finite negative m⟩

theorem value?_hundredthsText {x : Binary64} {size : WithTop Nat} (h : x.HasSize size) :
    value? x.hundredthsText = some (places size) := by
  cases h with
  | infinite => exact value?_infiniteText false
  | @finite negative m hsign =>
    rw [value?_finite]
    cases negative with
    | false => rfl
    | true =>
      rw [hsign rfl, hundredths_zero, places_zero, signedValue, if_pos rfl, neg_zero]
      rfl

end Numeral

end TurtleGraphics
