import Mathlib.Tactic
import TurtleGraphics.Proofs.Json.Readings

/-! Spellings of texts and numbers in JSON text. What is read at some place is what is spelled there, and every spelling
is read. -/

namespace TurtleGraphics.Json

/-- Code points between quotes. A character stands for itself, or a backslash leads an escape of one letter or of four
hexadecimal digits. -/
inductive SpellsPoints : List Char → List CodePoint → Prop where
  | nil : SpellsPoints [] []
  | plain {c : Char} {text : List Char} {points : List CodePoint} (quote : c ≠ '"') (back : c ≠ '\\')
      (printed : 32 ≤ c.toNat) : SpellsPoints text points → SpellsPoints (c :: text) (.char c :: points)
  | letter {e c : Char} {text : List Char} {points : List CodePoint} (escape : simpleEscape? e = some c) :
      SpellsPoints text points → SpellsPoints ('\\' :: e :: text) (.char c :: points)
  | unit {a b c d : Char} {unit : Nat} {text : List Char} {points : List CodePoint}
      (digits : Text.readHex? 0 [a, b, c, d] = some unit) :
      SpellsPoints text points → SpellsPoints ('\\' :: 'u' :: a :: b :: c :: d :: text) (unitPoint unit :: points)

/-- A text in its quotes. The escapes of the two halves of a pair spell one character. -/
def SpellsText (text : List Char) (s : LooseText) : Prop :=
  ∃ body points, text = '"' :: (body ++ ['"']) ∧ SpellsPoints body points ∧ s = .ofPoints (joinPairs points)

section Texts

variable {whole text body rest : List Char} {points : List CodePoint} {s : LooseText}

theorem ne_u_of_simpleEscape? {e c : Char} (h : simpleEscape? e = some c) : e ≠ 'u' := by
  rintro rfl
  cases h

theorem readPoints_of_spells (h : SpellsPoints body points) (whole rest : List Char) :
    readPoints whole (body ++ '"' :: rest) = .ok (points, rest) := by
  induction h with
  | nil => exact readPoints_quote whole rest
  | plain quote back printed _ ih =>
    rw [List.cons_append, readPoints_plain quote back printed, ih]
    rfl
  | letter escape _ ih =>
    rw [List.cons_append, List.cons_append, readPoints_simple escape (ne_u_of_simpleEscape? escape), ih]
    rfl
  | @unit a b c d unit text points digits _ ih =>
    have hescaped : escapedUnit? a b c d (text ++ '"' :: rest) = some unit := by
      have hmore : (text ++ '"' :: rest).isEmpty = false := by simp
      unfold escapedUnit?
      rw [hmore, digits]
      rfl
    simp only [List.cons_append]
    rw [readPoints_u, hescaped]
    dsimp only
    rw [ih]
    rfl

/-- A code point in front of code points that are spelled. -/
theorem spells_of_cons (lead : List Char) {tail : Read (List CodePoint)} {p : CodePoint} {text : List Char}
    (hp : ∀ {body points}, SpellsPoints body points → SpellsPoints (lead ++ body) (p :: points))
    (ih : ∀ {points rest}, tail = .ok (points, rest) → ∃ body, text = body ++ '"' :: rest ∧ SpellsPoints body points)
    (h : (tail.map fun q => (p :: q.1, q.2)) = .ok (points, rest)) :
    ∃ body, lead ++ text = body ++ '"' :: rest ∧ SpellsPoints body points := by
  obtain ⟨⟨behind, more⟩, htail, heq⟩ := ok_of_map_ok h
  cases heq
  obtain ⟨body, rfl, hbody⟩ := ih htail
  exact ⟨lead ++ body, (List.append_assoc ..).symm, hp hbody⟩

theorem readHex?_of_escapedUnit? {a b c d : Char} {behind : List Char} {unit : Nat}
    (h : escapedUnit? a b c d behind = some unit) : Text.readHex? 0 [a, b, c, d] = some unit := by
  unfold escapedUnit? at h
  split at h
  · cases h
  · exact h

theorem spells_of_readPoints (h : readPoints whole text = .ok (points, rest)) :
    ∃ body, text = body ++ '"' :: rest ∧ SpellsPoints body points := by
  fun_induction readPoints whole text generalizing points rest with
  | case1 => cases h
  | case2 =>
    cases h
    exact ⟨[], rfl, .nil⟩
  | case3 => cases h
  | case4 a b c d more unit hunit hquote ih =>
    exact spells_of_cons ['\\', 'u', a, b, c, d] (.unit (readHex?_of_escapedUnit? hunit)) ih h
  | case5 => cases h
  | case6 => cases h
  | case7 e behind hu c hescape hquote ih => exact spells_of_cons ['\\', e] (.letter hescape) ih h
  | case8 => cases h
  | case9 => cases h
  | case10 c behind hquote hback hcontrol ih =>
    exact spells_of_cons [c] (.plain hquote hback (Nat.not_lt.mp hcontrol)) ih h

theorem readString_of_spells (h : SpellsText text s) :
    ∃ tail, text = '"' :: tail ∧ ∀ rest, readString (tail ++ rest) = .ok (s, rest) := by
  obtain ⟨body, points, rfl, hpoints, rfl⟩ := h
  refine ⟨body ++ ['"'], rfl, fun rest => ?_⟩
  unfold readString
  rw [List.append_assoc, List.singleton_append, readPoints_of_spells hpoints]
  rfl

theorem spells_of_readString (h : readString text = .ok (s, rest)) :
    ∃ spelled, '"' :: text = spelled ++ rest ∧ SpellsText spelled s := by
  obtain ⟨⟨points, more⟩, hpoints, heq⟩ := ok_of_map_ok h
  cases heq
  obtain ⟨body, rfl, hbody⟩ := spells_of_readPoints hpoints
  exact ⟨'"' :: (body ++ ['"']), by simp, body, points, rfl, hbody, rfl⟩

end Texts

structure IsRun (digits : List Char) : Prop where
  nonempty : digits ≠ []
  digits : ∀ c ∈ digits, c.isDigit = true

inductive SpellsFraction : List Char → List Char → Prop where
  | none : SpellsFraction [] []
  | digits {fraction : List Char} : IsRun fraction → SpellsFraction ('.' :: fraction) fraction

inductive SpellsSign : List Char → Bool → Prop where
  | minus : SpellsSign ['-'] true
  | plus : SpellsSign ['+'] false
  | none : SpellsSign [] false

inductive SpellsPower : List Char → Option Int → Prop where
  | none : SpellsPower [] none
  | digits {mark : Char} {sign digits : List Char} {negative : Bool} (lead : mark = 'e' ∨ mark = 'E')
      (signed : SpellsSign sign negative) : IsRun digits →
      SpellsPower (mark :: (sign ++ digits)) (some (Numeral.signedNat negative (Nat.ofDigitChars 10 digits 0)))

/-- A number: perhaps a minus, digits without a zero before others, a fraction and a power. Without the last two it is
an integer. Where they are bounded, there are not too many digits before the point. -/
inductive SpellsNumber (d : Dialect) : List Char → Json → Prop where
  | parts {p : NumberParts} {fractionText powerText : List Char} (negative : Bool) (whole : IsRun p.whole)
      (lead : p.whole.head? = some '0' → p.whole = ['0']) (fraction : SpellsFraction fractionText p.fraction)
      (power : SpellsPower powerText p.power)
      (bounded : (p.isInteger || d.boundsFractions) = true → p.whole.length ≤ d.digits negative) :
      SpellsNumber d (Binary64.signText negative ++ (p.whole ++ (fractionText ++ powerText))) (p.value negative)

section Numbers

variable {text rest digits : List Char}

theorem IsRun.isEmpty_eq_false (h : IsRun digits) : digits.isEmpty = false := List.isEmpty_eq_false_iff.mpr h.nonempty

/-- The digits that are taken from the front of a text, if there are any, are a run. -/
theorem isRun_takeWhile (h : ¬(text.takeWhile Char.isDigit).isEmpty = true) : IsRun (text.takeWhile Char.isDigit) where
  nonempty := by simpa using h
  digits := fun _ => of_mem_takeWhile

theorem IsRun.exists_digit (h : IsRun digits) : ∃ c cs, digits = c :: cs ∧ c.isDigit = true := by
  obtain ⟨c, cs, rfl⟩ := List.exists_cons_of_ne_nil h.nonempty
  exact ⟨c, cs, rfl, h.digits c List.mem_cons_self⟩

/-- Behind a sign, or none, a text that does not start with one is what is left. -/
theorem splitSign_append {sign : List Char} {negative : Bool} (h : SpellsSign sign negative)
    (htext : ∃ c cs, text = c :: cs ∧ c ≠ '-' ∧ c ≠ '+') : Numeral.splitSign (sign ++ text) = (negative, text) := by
  obtain ⟨c, cs, rfl, hminus, hplus⟩ := htext
  cases h with
  | minus => rfl
  | plus => rfl
  | none =>
    rw [List.nil_append]
    unfold Numeral.splitSign
    split
    · next heq => cases heq; exact absurd rfl hminus
    · next heq => cases heq; exact absurd rfl hplus
    · rfl

theorem splitSign_of_spells {sign : List Char} {negative : Bool} (hs : SpellsSign sign negative) (h : IsRun digits)
    (rest : List Char) : Numeral.splitSign (sign ++ (digits ++ rest)) = (negative, digits ++ rest) := by
  obtain ⟨c, cs, rfl, hc⟩ := h.exists_digit
  refine splitSign_append hs ⟨c, cs ++ rest, rfl, ?_, ?_⟩
  · rintro rfl
    exact absurd hc (by decide)
  · rintro rfl
    exact absurd hc (by decide)

theorem spells_of_splitSign (text : List Char) :
    ∃ sign, text = sign ++ (Numeral.splitSign text).2 ∧ SpellsSign sign (Numeral.splitSign text).1 := by
  unfold Numeral.splitSign
  split
  · exact ⟨_, rfl, .minus⟩
  · exact ⟨_, rfl, .plus⟩
  · exact ⟨[], rfl, .none⟩

theorem exponentPart_mark {mark : Char} (h : mark = 'e' ∨ mark = 'E') (text : List Char) :
    exponentPart (mark :: text) =
      if ((Numeral.splitSign text).2.takeWhile Char.isDigit).isEmpty then (none, mark :: text)
      else (some (Numeral.signedNat (Numeral.splitSign text).1
          (Nat.ofDigitChars 10 ((Numeral.splitSign text).2.takeWhile Char.isDigit) 0)),
        (Numeral.splitSign text).2.dropWhile Char.isDigit) := by
  unfold exponentPart
  dsimp only
  rw [if_pos h]

theorem exponentPart_of_spells {power : Option Int} (h : SpellsPower text power) (hr : NumberEnd rest) :
    exponentPart (text ++ rest) = (power, rest) := by
  cases h with
  | none => exact exponentPart_of_end hr
  | @digits mark sign digits negative lead signed run =>
    have hsign := splitSign_of_spells signed run rest
    rw [List.cons_append, List.append_assoc, exponentPart_mark lead, hsign]
    dsimp only
    rw [takeWhile_digits run.digits hr.digitEnd, dropWhile_digits run.digits hr.digitEnd, run.isEmpty_eq_false]
    rfl

theorem spells_of_exponentPart {power : Option Int} (h : exponentPart text = (power, rest)) :
    ∃ spelled, text = spelled ++ rest ∧ SpellsPower spelled power := by
  cases text with
  | nil => cases h; exact ⟨[], rfl, .none⟩
  | cons mark text =>
    by_cases hmark : mark = 'e' ∨ mark = 'E'
    · rw [exponentPart_mark hmark] at h
      split at h
      · cases h; exact ⟨[], rfl, .none⟩
      · next hrun =>
        cases h
        obtain ⟨sign, htext, hsign⟩ := spells_of_splitSign text
        refine ⟨_, ?_, .digits hmark hsign (isRun_takeWhile hrun)⟩
        rw [List.cons_append, List.append_assoc, List.takeWhile_append_dropWhile, ← htext]
    · rw [not_or] at hmark
      rw [exponentPart_of_ne hmark.1 hmark.2] at h
      cases h
      exact ⟨[], rfl, .none⟩

theorem SpellsPower.end_append {power : Option Int} (h : SpellsPower text power) (hr : NumberEnd rest) :
    ∀ c cs, text ++ rest = c :: cs → c.isDigit = false ∧ c ≠ '.' := by
  intro c cs hc
  cases h with
  | none =>
    obtain ⟨hdigit, hpoint, -⟩ := hr c cs hc
    exact ⟨hdigit, hpoint⟩
  | digits lead _ _ =>
    cases hc
    rcases lead with rfl | rfl <;> decide

theorem fractionDigits_of_spells {fraction : List Char} (h : SpellsFraction text fraction)
    (hr : ∀ c cs, rest = c :: cs → c.isDigit = false ∧ c ≠ '.') :
    fractionDigits (text ++ rest) = (fraction, rest) := by
  cases h with
  | none => exact fractionDigits_of_ne fun c cs hc => (hr c cs hc).2
  | digits run =>
    have hend : DigitEnd rest := fun c cs hc => (hr c cs hc).1
    rw [List.cons_append, fractionDigits_point, takeWhile_digits run.digits hend, dropWhile_digits run.digits hend,
      run.isEmpty_eq_false]
    rfl

theorem spells_of_fractionDigits {fraction : List Char} (h : fractionDigits text = (fraction, rest)) :
    ∃ spelled, text = spelled ++ rest ∧ SpellsFraction spelled fraction := by
  unfold fractionDigits at h
  split at h
  · dsimp only at h
    split at h
    · cases h; exact ⟨[], rfl, .none⟩
    · next hrun =>
      cases h
      exact ⟨_, by rw [List.cons_append, List.takeWhile_append_dropWhile], .digits (isRun_takeWhile hrun)⟩
  · cases h; exact ⟨[], rfl, .none⟩

theorem SpellsFraction.digitEnd_append {fraction : List Char} (h : SpellsFraction text fraction)
    (hr : ∀ c cs, rest = c :: cs → c.isDigit = false ∧ c ≠ '.') : DigitEnd (text ++ rest) := by
  intro c cs hc
  cases h with
  | none => exact (hr c cs hc).1
  | digits _ => cases hc; rfl

theorem wholeDigits_of_isRun (h : IsRun digits) (lead : digits.head? = some '0' → digits = ['0']) (hr : DigitEnd rest) :
    wholeDigits (digits ++ rest) = digits := by
  obtain ⟨c, cs, rfl, -⟩ := h.exists_digit
  by_cases hzero : c = '0'
  · subst hzero
    rw [lead rfl]
    rfl
  · rw [List.cons_append, wholeDigits_of_ne_zero hzero, ← List.cons_append]
    exact takeWhile_digits h.digits hr

theorem isRun_wholeDigits (h : ¬(wholeDigits text).isEmpty = true) :
    IsRun (wholeDigits text) ∧ ((wholeDigits text).head? = some '0' → wholeDigits text = ['0']) ∧
      text = wholeDigits text ++ text.drop (wholeDigits text).length := by
  refine ⟨⟨by simpa using h, isDigit_of_mem_wholeDigits⟩, ?_⟩
  cases text with
  | nil => exact absurd rfl h
  | cons c text =>
    by_cases hzero : c = '0'
    · subst hzero
      exact ⟨fun _ => rfl, rfl⟩
    · rw [wholeDigits_of_ne_zero hzero]
      refine ⟨?_, (List.prefix_iff_eq_append.mp (List.takeWhile_prefix _)).symm⟩
      intro hhead
      rw [List.head?_takeWhile, List.head?_cons] at hhead
      exact absurd (Option.some.inj (Option.filter_eq_some_iff.mp hhead).1) hzero

theorem splitMinus_append {negative : Bool} (h : splitMinus text = (negative, rest)) :
    text = Binary64.signText negative ++ rest := by
  unfold splitMinus at h
  split at h
  · cases h; rfl
  · cases h; rfl

theorem readNumber_of_spells {d : Dialect} {j : Json} (h : SpellsNumber d text j) (hr : NumberEnd rest) :
    readNumber d (text ++ rest) = .ok (j, rest) := by
  cases h with
  | @parts p fractionText powerText negative whole lead fraction power bounded =>
    have hpowerEnd := power.end_append hr
    have hfraction := fractionDigits_of_spells fraction hpowerEnd
    have hpower := exponentPart_of_spells power hr
    obtain ⟨c, cs, hcons, hc⟩ := whole.exists_digit
    have hminus : splitMinus (Binary64.signText negative ++ (p.whole ++ (fractionText ++ (powerText ++ rest)))) =
        (negative, p.whole ++ (fractionText ++ (powerText ++ rest))) := by
      rw [hcons]
      exact splitMinus_signText negative hc _
    have hwhole := wholeDigits_of_isRun whole lead (fraction.digitEnd_append hpowerEnd)
    have hbound : ((p.isInteger || d.boundsFractions) && decide (d.digits negative < p.whole.length)) = false := by
      rw [Bool.and_eq_false_imp]
      exact fun hp => decide_eq_false (Nat.not_lt.mpr (bounded hp))
    simp only [List.append_assoc]
    unfold readNumber
    rw [hminus]
    dsimp only
    rw [hwhole, whole.isEmpty_eq_false, List.drop_left, hfraction]
    dsimp only
    rw [hpower]
    dsimp only
    unfold NumberParts.isInteger at hbound
    rw [hbound]
    unfold NumberParts.value NumberParts.isInteger NumberParts.decimal
    cases p.fraction.isEmpty && p.power.isNone <;> rfl

theorem spells_of_readNumber {d : Dialect} {j : Json} (h : readNumber d text = .ok (j, rest)) :
    ∃ spelled, text = spelled ++ rest ∧ SpellsNumber d spelled j := by
  unfold readNumber at h
  generalize hminus : splitMinus text = signed at h
  obtain ⟨negative, body⟩ := signed
  dsimp only at h
  split at h
  · cases h
  · next hwhole =>
    obtain ⟨run, lead, hbody⟩ := isRun_wholeDigits hwhole
    generalize wholeDigits body = whole at *
    generalize hfraction : fractionDigits (body.drop whole.length) = fractional at h
    obtain ⟨fraction, behind⟩ := fractional
    generalize hpower : exponentPart behind = powered at h
    obtain ⟨power, after⟩ := powered
    obtain ⟨fractionText, hfractionText, hfractionSpelled⟩ := spells_of_fractionDigits hfraction
    obtain ⟨powerText, hpowerText, hpowerSpelled⟩ := spells_of_exponentPart hpower
    dsimp only at h
    split at h
    · cases h
    · next hbound =>
      have hvalue : j = NumberParts.value ⟨whole, fraction, power⟩ negative ∧ rest = after := by
        unfold NumberParts.value NumberParts.isInteger NumberParts.decimal
        dsimp only
        split at h
        · next hinteger => cases h; exact ⟨(if_pos hinteger).symm, rfl⟩
        · next hinteger => cases h; exact ⟨(if_neg hinteger).symm, rfl⟩
      obtain ⟨rfl, rfl⟩ := hvalue
      refine ⟨_, ?_, .parts negative run lead hfractionSpelled hpowerSpelled ?_⟩
      · rw [splitMinus_append hminus, hbody, hfractionText, hpowerText]
        simp only [List.append_assoc]
      · intro hbounded
        by_contra hlong
        exact hbound (Bool.and_eq_true_iff.mpr ⟨hbounded, decide_eq_true (Nat.not_le.mp hlong)⟩)

end Numbers

end TurtleGraphics.Json
