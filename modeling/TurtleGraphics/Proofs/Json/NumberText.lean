import Mathlib.Tactic
import TurtleGraphics.Json.Reader

/-! Number texts in JSON text: a whole part, a fraction and a power of ten, read up to where they end. -/

namespace TurtleGraphics.Json

/-- A text that does not go on with what could belong to a number. -/
def NumberEnd (rest : List Char) : Prop :=
  ∀ c cs, rest = c :: cs → c.isDigit = false ∧ c ≠ '.' ∧ c ≠ 'e' ∧ c ≠ 'E'

def DigitEnd (rest : List Char) : Prop := ∀ c cs, rest = c :: cs → c.isDigit = false

theorem of_mem_takeWhile {α : Type} {p : α → Bool} {l : List α} {x : α} (h : x ∈ l.takeWhile p) : p x = true :=
  List.all_eq_true.mp List.all_takeWhile x h

theorem NumberEnd.digitEnd {rest : List Char} (h : NumberEnd rest) : DigitEnd rest :=
  fun c cs hc => (h c cs hc).1

section Digits

variable {digits rest : List Char}

theorem takeWhile_digits (hd : ∀ c ∈ digits, c.isDigit = true) (hr : DigitEnd rest) :
    (digits ++ rest).takeWhile Char.isDigit = digits := by
  have hrest : rest.takeWhile Char.isDigit = [] := by
    cases rest with
    | nil => rfl
    | cons c cs => exact List.takeWhile_cons_of_neg (by simp [hr c cs rfl])
  rw [List.takeWhile_append_of_pos hd, hrest, List.append_nil]

theorem dropWhile_digits (hd : ∀ c ∈ digits, c.isDigit = true) (hr : DigitEnd rest) :
    (digits ++ rest).dropWhile Char.isDigit = rest := by
  have hsplit := List.takeWhile_append_dropWhile (p := Char.isDigit) (l := digits ++ rest)
  rw [takeWhile_digits hd hr] at hsplit
  exact List.append_cancel_left hsplit

end Digits

structure NumberParts where
  whole : List Char
  fraction : List Char
  power : Option Int

namespace NumberParts

def fractionText (p : NumberParts) : List Char := if p.fraction = [] then [] else '.' :: p.fraction

def powerText (p : NumberParts) : List Char := p.power.elim [] NumberStyle.exponentText

def text (p : NumberParts) : List Char := p.whole ++ (p.fractionText ++ p.powerText)

def isInteger (p : NumberParts) : Bool := p.fraction.isEmpty && p.power.isNone

def decimal (p : NumberParts) : Decimal := .ofDigits p.whole p.fraction (p.power.getD 0)

/-- Digits, without a zero before other digits, and not too many before the point. -/
structure Plain (limit : Nat) (p : NumberParts) : Prop where
  whole : ∀ c ∈ p.whole, c.isDigit = true
  fraction : ∀ c ∈ p.fraction, c.isDigit = true
  lead : p.whole = ['0'] ∨ ∃ c cs, p.whole = c :: cs ∧ c ≠ '0'
  bounded : p.whole.length ≤ limit

end NumberParts

theorem wholeDigits_of_ne_zero {c : Char} (h : c ≠ '0') (rest : List Char) :
    wholeDigits (c :: rest) = (c :: rest).takeWhile Char.isDigit := by
  unfold wholeDigits
  split
  · next heq =>
    cases heq
    exact absurd rfl h
  · rfl

namespace NumberParts.Plain

variable {limit : Nat} {p : NumberParts}

theorem whole_ne_nil (h : p.Plain limit) : p.whole ≠ [] := by
  rcases h.lead with hzero | ⟨c, cs, hcons, -⟩
  · rw [hzero]
    exact List.cons_ne_nil _ _
  · rw [hcons]
    exact List.cons_ne_nil _ _

/-- A number text starts with a digit. -/
theorem exists_digit (h : p.Plain limit) : ∃ c cs, c.isDigit = true ∧ p.text = c :: cs := by
  cases hw : p.whole with
  | nil => exact absurd hw h.whole_ne_nil
  | cons c cs =>
    refine ⟨c, cs ++ (p.fractionText ++ p.powerText), ?_, ?_⟩
    · apply h.whole
      rw [hw]
      exact List.mem_cons_self
    · unfold text
      rw [hw]
      rfl

theorem wholeDigits_append (h : p.Plain limit) {rest : List Char} (hr : DigitEnd rest) :
    wholeDigits (p.whole ++ rest) = p.whole := by
  rcases h.lead with hzero | ⟨c, cs, hcons, hc⟩
  · rw [hzero]
    rfl
  · have htake := takeWhile_digits h.whole hr
    rw [hcons] at htake ⊢
    rw [List.cons_append, wholeDigits_of_ne_zero hc]
    exact htake

end NumberParts.Plain

theorem isDigit_of_mem_toDigits {n : Nat} : ∀ c ∈ Nat.toDigits 10 n, c.isDigit = true :=
  fun _ hc => Nat.isDigit_of_mem_toDigits (by decide) (by decide) hc

theorem signedNat_natAbs (e : Int) : Numeral.signedNat (decide (e < 0)) e.natAbs = e := by
  unfold Numeral.signedNat
  by_cases h : e < 0
  · rw [decide_eq_true h, if_pos rfl]
    omega
  · rw [decide_eq_false h, if_neg (by decide)]
    omega

theorem exponentPart_of_ne {c : Char} (hlow : c ≠ 'e') (hhigh : c ≠ 'E') (rest : List Char) :
    exponentPart (c :: rest) = (none, c :: rest) := by
  unfold exponentPart
  dsimp only
  rw [if_neg (by simp [hlow, hhigh])]

theorem exponentPart_e (text : List Char) :
    exponentPart ('e' :: text) =
      if ((Numeral.splitSign text).2.takeWhile Char.isDigit).isEmpty then (none, 'e' :: text)
      else (some (Numeral.signedNat (Numeral.splitSign text).1
          (Nat.ofDigitChars 10 ((Numeral.splitSign text).2.takeWhile Char.isDigit) 0)),
        (Numeral.splitSign text).2.dropWhile Char.isDigit) := rfl

theorem exponentPart_of_end {rest : List Char} (hr : NumberEnd rest) : exponentPart rest = (none, rest) := by
  cases rest with
  | nil => rfl
  | cons c cs =>
    obtain ⟨-, -, hlow, hhigh⟩ := hr c cs rfl
    exact exponentPart_of_ne hlow hhigh cs

def exponentDigits (e : Int) : List Char :=
  if (Nat.toDigits 10 e.natAbs).length < 2 then '0' :: Nat.toDigits 10 e.natAbs else Nat.toDigits 10 e.natAbs

theorem isDigit_exponentDigits (e : Int) : ∀ c ∈ exponentDigits e, c.isDigit = true := by
  intro c hc
  unfold exponentDigits at hc
  split at hc
  · rcases List.mem_cons.mp hc with rfl | hc
    · rfl
    · exact isDigit_of_mem_toDigits c hc
  · exact isDigit_of_mem_toDigits c hc

theorem exponentDigits_ne_nil (e : Int) : exponentDigits e ≠ [] := by
  unfold exponentDigits
  split
  · exact List.cons_ne_nil _ _
  · exact Nat.toDigits_ne_nil

theorem ofDigitChars_exponentDigits (e : Int) : Nat.ofDigitChars 10 (exponentDigits e) 0 = e.natAbs := by
  unfold exponentDigits
  split
  · rw [Nat.ofDigitChars_cons]
    exact Nat.ofDigitChars_ten_toDigits
  · exact Nat.ofDigitChars_ten_toDigits

theorem exponentPart_exponentText (e : Int) {rest : List Char} (hr : DigitEnd rest) :
    exponentPart (NumberStyle.exponentText e ++ rest) = (some e, rest) := by
  have hsign : Numeral.splitSign ((if e < 0 then '-' else '+') :: (exponentDigits e ++ rest)) =
      (decide (e < 0), exponentDigits e ++ rest) := by
    by_cases h : e < 0
    · rw [if_pos h, decide_eq_true h]
      rfl
    · rw [if_neg h, decide_eq_false h]
      rfl
  have htext : NumberStyle.exponentText e ++ rest =
      'e' :: (if e < 0 then '-' else '+') :: (exponentDigits e ++ rest) := rfl
  have htake := takeWhile_digits (isDigit_exponentDigits e) hr
  have hdrop := dropWhile_digits (isDigit_exponentDigits e) hr
  have hne : (exponentDigits e).isEmpty = false := by
    rw [List.isEmpty_eq_false_iff]
    exact exponentDigits_ne_nil e
  rw [htext, exponentPart_e, hsign]
  dsimp only
  rw [htake, hdrop, hne, ofDigitChars_exponentDigits, signedNat_natAbs]
  rfl

theorem exponentPart_powerText (p : NumberParts) {rest : List Char} (hr : NumberEnd rest) :
    exponentPart (p.powerText ++ rest) = (p.power, rest) := by
  unfold NumberParts.powerText
  cases p.power with
  | none => exact exponentPart_of_end hr
  | some e => exact exponentPart_exponentText e hr.digitEnd

theorem powerText_end (p : NumberParts) {rest : List Char} (hr : NumberEnd rest) :
    ∀ c cs, p.powerText ++ rest = c :: cs → c.isDigit = false ∧ c ≠ '.' := by
  intro c cs hc
  unfold NumberParts.powerText at hc
  cases hp : p.power with
  | none =>
    rw [hp] at hc
    obtain ⟨hdigit, hpoint, -⟩ := hr c cs hc
    exact ⟨hdigit, hpoint⟩
  | some e =>
    rw [hp] at hc
    cases hc
    exact ⟨rfl, by decide⟩

theorem fractionDigits_of_ne {rest : List Char} (h : ∀ c cs, rest = c :: cs → c ≠ '.') :
    fractionDigits rest = ([], rest) := by
  unfold fractionDigits
  split
  · next cs => exact absurd rfl (h '.' cs rfl)
  · rfl

theorem fractionDigits_point (text : List Char) :
    fractionDigits ('.' :: text) =
      if (text.takeWhile Char.isDigit).isEmpty then ([], '.' :: text)
      else (text.takeWhile Char.isDigit, text.dropWhile Char.isDigit) := rfl

theorem fractionDigits_fractionText {limit : Nat} {p : NumberParts} (h : p.Plain limit) {rest : List Char}
    (hr : ∀ c cs, rest = c :: cs → c.isDigit = false ∧ c ≠ '.') :
    fractionDigits (p.fractionText ++ rest) = (p.fraction, rest) := by
  unfold NumberParts.fractionText
  by_cases hempty : p.fraction = []
  · rw [if_pos hempty, hempty]
    exact fractionDigits_of_ne fun c cs hc => (hr c cs hc).2
  · have hend : DigitEnd rest := fun c cs hc => (hr c cs hc).1
    have htake := takeWhile_digits h.fraction hend
    have hdrop := dropWhile_digits h.fraction hend
    have hne : p.fraction.isEmpty = false := List.isEmpty_eq_false_iff.mpr hempty
    rw [if_neg hempty, List.cons_append, fractionDigits_point, htake, hdrop, hne]
    rfl

theorem fractionText_end (p : NumberParts) {rest : List Char} (hr : NumberEnd rest) :
    DigitEnd (p.fractionText ++ (p.powerText ++ rest)) := by
  intro c cs hc
  unfold NumberParts.fractionText at hc
  by_cases hempty : p.fraction = []
  · rw [if_pos hempty] at hc
    exact (powerText_end p hr c cs hc).1
  · rw [if_neg hempty] at hc
    cases hc
    rfl

theorem splitMinus_signText (negative : Bool) {c : Char} (hc : c.isDigit = true) (rest : List Char) :
    splitMinus (Binary64.signText negative ++ c :: rest) = (negative, c :: rest) := by
  cases negative with
  | true => rfl
  | false =>
    change splitMinus (c :: rest) = (false, c :: rest)
    unfold splitMinus
    split
    · next heq =>
      cases heq
      exact absurd hc (by decide)
    · rfl

def NumberParts.value (p : NumberParts) (negative : Bool) : Json :=
  if p.isInteger then .int (Numeral.signedNat negative (Nat.ofDigitChars 10 p.whole 0))
  else .float (.ofDecimal negative p.decimal)

theorem readNumber_text (d : Dialect) (negative : Bool) {p : NumberParts} (h : p.Plain (d.digits negative))
    {rest : List Char}
    (hr : NumberEnd rest) :
    readNumber d (Binary64.signText negative ++ p.text ++ rest) = .ok (p.value negative, rest) := by
  obtain ⟨c, cs, hc, htext⟩ := h.exists_digit
  have hminus : splitMinus (Binary64.signText negative ++ p.text ++ rest) = (negative, p.text ++ rest) := by
    rw [List.append_assoc, htext]
    exact splitMinus_signText negative hc (cs ++ rest)
  have hparts : p.text ++ rest = p.whole ++ (p.fractionText ++ (p.powerText ++ rest)) := by
    simp only [NumberParts.text, List.append_assoc]
  have hwhole : wholeDigits (p.text ++ rest) = p.whole := by
    rw [hparts]
    exact h.wholeDigits_append (fractionText_end p hr)
  have hdrop : (p.text ++ rest).drop p.whole.length = p.fractionText ++ (p.powerText ++ rest) := by
    rw [hparts]
    exact List.drop_left
  have hfraction := fractionDigits_fractionText h (powerText_end p hr)
  have hpower := exponentPart_powerText p hr
  have hne : p.whole.isEmpty = false := List.isEmpty_eq_false_iff.mpr h.whole_ne_nil
  have hbound : decide (d.digits negative < p.whole.length) = false :=
    decide_eq_false (Nat.not_lt.mpr h.bounded)
  unfold readNumber
  rw [hminus]
  dsimp only
  rw [hwhole, hne, hdrop, hfraction]
  dsimp only
  rw [hpower]
  dsimp only
  rw [hbound, Bool.and_false]
  unfold NumberParts.value NumberParts.isInteger NumberParts.decimal
  cases p.fraction.isEmpty && p.power.isNone <;> rfl

end TurtleGraphics.Json
