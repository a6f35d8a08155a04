import Mathlib.Tactic
import TurtleGraphics.Proofs.Decimal.FreeText
import TurtleGraphics.Proofs.Schema.Validation
import TurtleGraphics.Proofs.Text.Utf8
import TurtleGraphics.Standard

/-! The strict reader and the lenient rules that programs run with. They keep to what is relied on. -/

namespace TurtleGraphics

namespace Numeral

theorem isWritable_of_readExact {text : List Char} {n : Int} (h : readExact text = .value n) :
    (Number.int n).isWritable = true := by
  unfold readExact at h
  dsimp only at h
  generalize (if text.head? = some '-' then text.tail else text) = body at h
  split at h
  · split at h
    · cases h
      decide
    · cases h
  · split at h
    · cases h
    · next hshort =>
      split at h
      · cases h
        have hlimit : 0 < Number.digitLimit := by decide
        exact decide_eq_true
          (Json.digitCount_signedNat _ (fun _ => Json.of_mem_takeWhile) hlimit (Nat.not_lt.mp hshort))
      · cases h

theorem isWritable_of_readInteger {text : List Char} {n : Int} (h : readInteger text = .value n) :
    (Number.int n).isWritable = true := by
  unfold readInteger at h
  split at h
  · split at h
    · next hplain =>
      cases h
      obtain ⟨plain, -, hread⟩ := Option.map_eq_some_iff.mp hplain
      exact isWritable_of_readExact hread
    · cases h
  · exact isWritable_of_readExact h

end Numeral

namespace Coerce

/-- What the strict reader reads is what the bytes of a text spell, if each surrogate in it has its other half. -/
theorem strictJson?_eq_some_iff {bytes : List UInt8} {j : Json} :
    strictJson? bytes = some j ↔
      ∃ text, bytes = Text.Utf8.encode text ∧ Json.SpellsAll .strict text j ∧ j.isWhole = true := by
  unfold strictJson?
  constructor
  · intro h
    split at h
    · cases h
    · next text hdecode =>
      obtain ⟨hspelled, hwhole⟩ := Json.parseStrict?_eq_some_iff.mp h
      exact ⟨text, Text.Utf8.decode_eq_ok_iff.mp hdecode, hspelled, hwhole⟩
  · rintro ⟨text, rfl, hspelled, hwhole⟩
    rw [Text.Utf8.decode_encode]
    exact Json.parseStrict?_eq_some_iff.mpr ⟨hspelled, hwhole⟩

def IsNumeric (s : String) (x : Binary64) : Prop := Numeral.Spells s.toList x

variable {j : Json} {x : Binary64} {cause : IssueCause}

/-- An integer past the largest number counts as infinite. -/
def nearest (j : Json) : Except IssueCause Binary64 := number (fun n => .ok (.ofInt n)) j

theorem nearest_int (n : Int) : nearest (.int n) = .ok (.ofInt n) := by
  unfold nearest number Binary64.ofInt?
  by_cases h : (Binary64.ofInt n).isFinite = true
  · simp only [h, ↓reduceIte]
  · simp only [h, Bool.false_eq_true, ↓reduceIte]

theorem nearest_bool (b : Bool) : nearest (.bool b) = .ok (if b then .one else .zero false) := rfl

theorem nearest_text (s : String) :
    nearest (.string (.whole s)) = (Numeral.binary64? s.toList).elim (.error .notNumberText) .ok := by
  unfold nearest number
  dsimp only
  cases Numeral.binary64? s.toList <;> rfl

theorem nearest_of_isNumber (h : j.IsNumber IsNumeric x) : nearest j = .ok x := by
  cases h with
  | int n => exact nearest_int n
  | float x => rfl
  | bool b => rfl
  | text spelled =>
    rw [nearest_text, Numeral.binary64?_eq_some_iff.mpr spelled]
    rfl

theorem isNumber_of_nearest (h : nearest j = .ok x) : j.IsNumber IsNumeric x := by
  cases j with
  | null => cases h
  | bool b =>
    rw [nearest_bool] at h
    rw [← Except.ok.inj h]
    exact .bool b
  | int n =>
    rw [nearest_int] at h
    rw [← Except.ok.inj h]
    exact .int n
  | float y => cases h; exact .float x
  | string s =>
    cases s with
    | broken points => cases h
    | whole s =>
      rw [nearest_text] at h
      cases hread : Numeral.binary64? s.toList with
      | none => rw [hread] at h; cases h
      | some y =>
        rw [hread] at h
        cases h
        exact .text (Numeral.binary64?_eq_some_iff.mp hread)
  | array items => cases h
  | object members => cases h

theorem isRefused_of_nearest (hnull : j ≠ .null) (h : nearest j = .error cause) : j.IsRefused IsNumeric cause := by
  cases j with
  | null => exact absurd rfl hnull
  | bool b => cases h
  | int n =>
    rw [nearest_int] at h
    cases h
  | float y => cases h
  | string s =>
    cases s with
    | broken points => cases h; exact .broken points
    | whole s =>
      rw [nearest_text] at h
      cases hread : Numeral.binary64? s.toList with
      | some y => rw [hread] at h; cases h
      | none =>
        rw [hread] at h
        cases h
        refine .text fun x hx => ?_
        rw [Numeral.binary64?_eq_some_iff.mpr hx] at hread
        cases hread
  | array items => cases h; exact .array items
  | object members => cases h; exact .object members

theorem finiteNumber_of_nearest (h : nearest j = .ok x) :
    finiteNumber j = if x.isFinite then .ok x else .error .notFinite := by
  unfold nearest at h
  unfold finiteNumber
  rw [h]
  by_cases hfinite : x.isFinite = true
  · rw [if_pos hfinite]
    exact if_pos hfinite
  · rw [if_neg hfinite]
    exact if_neg hfinite

theorem finiteNumber_of_nearest_error (h : nearest j = .error cause) : finiteNumber j = .error cause := by
  unfold nearest at h
  unfold finiteNumber
  rw [h]
  rfl

theorem finiteNumber_eq_ok_iff : finiteNumber j = .ok x ↔ j.IsNumber IsNumeric x ∧ x.isFinite = true := by
  constructor
  · intro h
    cases hnearest : nearest j with
    | error cause => rw [finiteNumber_of_nearest_error hnearest] at h; cases h
    | ok y =>
      rw [finiteNumber_of_nearest hnearest] at h
      split at h
      · next hfinite =>
        cases h
        exact ⟨isNumber_of_nearest hnearest, hfinite⟩
      · cases h
  · rintro ⟨hnumber, hfinite⟩
    rw [finiteNumber_of_nearest (nearest_of_isNumber hnumber), if_pos hfinite]

theorem finiteNumber_eq_error_iff (hnull : j ≠ .null) :
    finiteNumber j = .error cause ↔ j.IsRefused IsNumeric cause := by
  constructor
  · intro h
    cases hnearest : nearest j with
    | error other =>
      rw [finiteNumber_of_nearest_error hnearest] at h
      cases h
      exact isRefused_of_nearest hnull hnearest
    | ok y =>
      rw [finiteNumber_of_nearest hnearest] at h
      split at h
      · cases h
      · next hfinite =>
        cases h
        exact .notFinite (isNumber_of_nearest hnearest) (Bool.eq_false_iff.mpr hfinite)
  · intro h
    cases h with
    | array items => rfl
    | object members => rfl
    | broken points => rfl
    | @text s hnone =>
      have hread : Numeral.binary64? s.toList = none := by
        rw [Option.eq_none_iff_forall_ne_some]
        exact fun x hx => hnone x (Numeral.binary64?_eq_some_iff.mp hx)
      refine finiteNumber_of_nearest_error ?_
      rw [nearest_text, hread]
      rfl
    | notFinite hnumber hfinite =>
      rw [finiteNumber_of_nearest (nearest_of_isNumber hnumber), hfinite]
      rfl

theorem text_notText (h : ∀ s, j ≠ .string s) : text j = .error .notText := by
  cases j with
  | string s => exact absurd rfl (h s)
  | _ => rfl

theorem anyNumber_int_eq_ok_iff {n : Int} : anyNumber (.int n) = .ok x ↔ Binary64.ofInt? n = some x := by
  unfold anyNumber number
  dsimp only
  cases Binary64.ofInt? n with
  | none => simp
  | some y => simp

theorem looseText_eq_ok_iff {s : LooseText} : looseText j = .ok s ↔ j = .string s := by
  cases j with
  | string t => exact ⟨fun h => by cases h; rfl, fun h => by cases h; rfl⟩
  | _ => exact ⟨nofun, nofun⟩

theorem isWritable_of_integerOfNumber {n : Int} (h : integerOfNumber x = .ok n) : (Number.int n).isWritable = true := by
  unfold integerOfNumber at h
  split at h
  · cases h
  · split at h
    · cases h
    · split at h
      · next hsmall =>
        cases h
        unfold isSmall at hsmall
        rw [Bool.and_eq_true, decide_eq_true_eq, decide_eq_true_eq] at hsmall
        have hpow : Nat.pow 2 63 = 9223372036854775808 := by decide
        exact Number.isWritable_of_natAbs_lt (e := 63) (by omega) (by decide)
      · cases h

theorem isWritable_of_integer {n : Int} (own : ∀ m, j = .int m → (Number.int m).isWritable = true)
    (h : integer j = .ok n) : (Number.int n).isWritable = true := by
  cases j with
  | int m =>
    cases h
    exact own n rfl
  | bool b =>
    cases h
    cases b <;> decide
  | float x => exact isWritable_of_integerOfNumber h
  | string s =>
    cases s with
    | broken points => cases h
    | whole s =>
      change integerOfText s = .ok n at h
      unfold integerOfText at h
      split at h
      · next hread =>
        cases h
        exact Numeral.isWritable_of_readInteger hread
      · cases h
      · cases h
  | _ => cases h

end Coerce

namespace Validation

open Standard

theorem reads_standard : Reads .strict := by
  have hdigits : 309 ≤ Number.digitLimit := by decide
  refine ⟨?_, by decide, fun _ => hdigits⟩
  intro text j spelled whole
  exact Coerce.strictJson?_eq_some_iff.mpr ⟨text, rfl, spelled, whole⟩

theorem isLax_standard : IsLax Coerce.IsNumeric where
  text _ := rfl
  brokenText _ := rfl
  notText := Coerce.text_notText
  finiteNumber := Coerce.finiteNumber_eq_ok_iff
  notFiniteNumber := Coerce.finiteNumber_eq_error_iff

theorem keepsOwn_standard : KeepsOwn where
  integer _ := rfl
  anyNumber _ := rfl
  anyNumber_int := Coerce.anyNumber_int_eq_ok_iff
  looseText := Coerce.looseText_eq_ok_iff
  isWritable := Coerce.isWritable_of_integer

end Validation

end TurtleGraphics
