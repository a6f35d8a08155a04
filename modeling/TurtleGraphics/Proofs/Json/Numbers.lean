import Mathlib.Tactic
import TurtleGraphics.Json.Writer
import TurtleGraphics.Proofs.Decimal.Shortest
import TurtleGraphics.Proofs.Json.NumberText

/-! Numbers in JSON text. What is written for a number is a number text with the value of the number. -/

namespace TurtleGraphics.Json

theorem digitChar_ne_zero {n : Nat} (hpos : n ≠ 0) (hlt : n < 10) : n.digitChar ≠ '0' := by
  have : ∀ d : Fin 10, d.val ≠ 0 → d.val.digitChar ≠ '0' := by decide
  exact this ⟨n, hlt⟩ hpos

/-- The first digit of a positive number is not zero. -/
theorem toDigits_lead {n : Nat} (h : n ≠ 0) : ∃ c cs, Nat.toDigits 10 n = c :: cs ∧ c ≠ '0' := by
  induction n using Nat.strong_induction_on with
  | _ n ih =>
    rcases Nat.lt_or_ge n 10 with hlt | hge
    · exact ⟨n.digitChar, [], Nat.toDigits_of_lt_base hlt, digitChar_ne_zero h hlt⟩
    · obtain ⟨c, cs, hcons, hc⟩ := ih (n / 10) (by omega) (by omega)
      refine ⟨c, cs ++ [(n % 10).digitChar], ?_, hc⟩
      rw [Nat.toDigits_of_base_le (by decide) hge, hcons]
      rfl

namespace NumberParts

/-- The parts in which digits are written, the first of them standing for `10 ^ lead`. -/
def ofDigits (digits : List Char) (lead : Int) : NumberParts :=
  if -4 ≤ lead ∧ lead < 16 then
    if lead < 0 then ⟨['0'], List.replicate (-lead - 1).toNat '0' ++ digits, none⟩
    else if digits.length ≤ (lead + 1).toNat then
      ⟨digits ++ List.replicate ((lead + 1).toNat - digits.length) '0', ['0'], none⟩
    else ⟨digits.take (lead + 1).toNat, digits.drop (lead + 1).toNat, none⟩
  else ⟨digits.take 1, digits.drop 1, some lead⟩

variable {digits : List Char}

theorem text_exponential (hne : digits ≠ []) (lead : Int) :
    text ⟨digits.take 1, digits.drop 1, some lead⟩ = NumberStyle.exponential digits lead := by
  match digits with
  | [] => exact absurd rfl hne
  | [d] => rfl
  | d :: e :: rest => rfl

theorem text_positional (whole : List Char) {fraction : List Char} (h : fraction ≠ []) :
    text ⟨whole, fraction, none⟩ = whole ++ '.' :: fraction := by
  unfold text fractionText powerText
  dsimp only
  rw [if_neg h]
  exact congrArg _ (List.append_nil _)

theorem text_ofDigits (hne : digits ≠ []) (lead : Int) :
    (ofDigits digits lead).text = NumberStyle.plain.write digits lead := by
  unfold ofDigits NumberStyle.write
  by_cases hrange : -4 ≤ lead ∧ lead < 16
  · have hplain : NumberStyle.plain.lowest ≤ lead ∧ lead < NumberStyle.plain.limit := hrange
    rw [if_pos hrange, if_pos hplain]
    unfold NumberStyle.positional
    by_cases hneg : lead < 0
    · have hfraction : List.replicate (-lead - 1).toNat '0' ++ digits ≠ [] := List.append_ne_nil_of_right_ne_nil _ hne
      rw [if_pos hneg, if_pos hneg, text_positional ['0'] hfraction]
      rfl
    · rw [if_neg hneg, if_neg hneg]
      by_cases hlong : digits.length ≤ (lead + 1).toNat
      · rw [if_pos hlong, if_pos hlong]
        rfl
      · have hfraction : digits.drop (lead + 1).toNat ≠ [] := by
          rw [Ne, List.drop_eq_nil_iff]
          exact hlong
        rw [if_neg hlong, if_neg hlong, text_positional _ hfraction]
  · have hplain : ¬(NumberStyle.plain.lowest ≤ lead ∧ lead < NumberStyle.plain.limit) := hrange
    rw [if_neg hrange, if_neg hplain]
    exact text_exponential hne lead

theorem isInteger_ofDigits (hne : digits ≠ []) (lead : Int) : (ofDigits digits lead).isInteger = false := by
  unfold ofDigits isInteger
  split
  · split
    · simp [hne]
    · split
      · rfl
      · next hlong =>
        have hfraction : digits.drop (lead + 1).toNat ≠ [] := by
          rw [Ne, List.drop_eq_nil_iff]
          exact hlong
        rw [List.isEmpty_eq_false_iff.mpr hfraction]
        rfl
  · exact Bool.and_false _

section Plain

variable {limit : Nat} (hd : ∀ c ∈ digits, c.isDigit = true)
    (hlead : digits = ['0'] ∨ ∃ c cs, digits = c :: cs ∧ c ≠ '0')

include hd hlead

theorem plain_split {n : Nat} (hn : n < limit) (power : Option Int) :
    Plain limit ⟨digits.take (n + 1), digits.drop (n + 1), power⟩ where
  whole := fun c hc => hd c (List.mem_of_mem_take hc)
  fraction := fun c hc => hd c (List.mem_of_mem_drop hc)
  lead := by
    rcases hlead with hone | ⟨c, cs, hcons, hc⟩
    · left
      rw [hone, List.take_succ_cons, List.take_nil]
    · right
      refine ⟨c, cs.take n, ?_, hc⟩
      rw [hcons, List.take_succ_cons]
  bounded := by
    rw [List.length_take]
    omega

theorem plain_whole {n : Nat} (hn : digits.length + n ≤ limit) (hzero : digits = ['0'] → n = 0) :
    Plain limit ⟨digits ++ List.replicate n '0', ['0'], none⟩ where
  whole := by
    intro c hc
    rcases List.mem_append.mp hc with h | h
    · exact hd c h
    · rw [List.eq_of_mem_replicate h]
      rfl
  fraction := by
    intro c hc
    rw [List.mem_singleton.mp hc]
    rfl
  lead := by
    rcases hlead with hone | ⟨c, cs, hcons, hc⟩
    · left
      rw [hzero hone, hone]
      rfl
    · right
      refine ⟨c, cs ++ List.replicate n '0', ?_, hc⟩
      rw [hcons, List.cons_append]
  bounded := by
    rw [List.length_append, List.length_replicate]
    exact hn

/-- Written out, a number has at most 17 digits before its point. -/
theorem plain_ofDigits {lead : Int} (hzero : digits = ['0'] → lead = 0) (hlimit : 17 ≤ limit) :
    (ofDigits digits lead).Plain limit := by
  unfold ofDigits
  split
  · next hrange =>
    split
    · refine ⟨?_, ?_, .inl rfl, Nat.le_trans (by decide : 1 ≤ 17) hlimit⟩
      · intro c hc
        rw [List.mem_singleton.mp hc]
        rfl
      · intro c hc
        rcases List.mem_append.mp hc with h | h
        · rw [List.eq_of_mem_replicate h]
          rfl
        · exact hd c h
    · next hneg =>
      split
      · next hlong =>
        apply plain_whole hd hlead
        · omega
        · intro hone
          rw [hzero hone, hone]
          rfl
      · next hlong =>
        obtain ⟨n, hn⟩ : ∃ n, (lead + 1).toNat = n + 1 := ⟨lead.toNat, by omega⟩
        rw [hn]
        exact plain_split hd hlead (by omega) none
  · exact plain_split hd hlead (by omega) (some lead)

end Plain

theorem decimal_whole (negative : Bool) (c n : Nat) (hn : n ≤ 16) (hc : Nat.ofDigitChars 10 digits 0 = c) :
    Binary64.ofDecimal negative (decimal ⟨digits ++ List.replicate n '0', ['0'], none⟩) =
      Binary64.ofDecimal negative ⟨c, n⟩ := by
  have hcoefficient : Nat.ofDigitChars 10 (digits ++ List.replicate n '0' ++ ['0']) 0 = c * Nat.pow 10 (n + 1) := by
    rw [List.append_assoc, ← List.replicate_succ', Nat.ofDigitChars_append, hc, Nat.ofDigitChars_replicate_zero,
      Nat.mul_comm, Nat.pow_eq]
  have hdecimal : decimal ⟨digits ++ List.replicate n '0', ['0'], none⟩ = ⟨c * Nat.pow 10 (n + 1), -1⟩ := by
    unfold decimal Decimal.ofDigits
    rw [hcoefficient]
    rfl
  rw [hdecimal]
  exact Binary64.ofDecimal_tenths negative c (by omega)

theorem decimal_split (digits : List Char) (n : Nat) (power : Option Int) :
    decimal ⟨digits.take n, digits.drop n, power⟩ =
      ⟨Nat.ofDigitChars 10 digits 0, power.getD 0 - ((digits.length - n : Nat) : Int)⟩ := by
  unfold decimal Decimal.ofDigits
  dsimp only
  rw [List.take_append_drop, List.length_drop]

/-- The parts have the value of the digits. -/
theorem decimal_ofDigits (negative : Bool) (hne : digits ≠ []) (lead : Int) :
    Binary64.ofDecimal negative (ofDigits digits lead).decimal =
      Binary64.ofDecimal negative ⟨Nat.ofDigitChars 10 digits 0, lead + 1 - digits.length⟩ := by
  have hpos : 0 < digits.length := List.length_pos_iff.mpr hne
  unfold ofDigits
  split
  · next hrange =>
    split
    · next hneg =>
      congr 1
      unfold decimal Decimal.ofDigits
      dsimp only [Option.getD_none]
      rw [Nat.ofDigitChars_append, Nat.ofDigitChars_append, List.length_append, List.length_replicate,
        Nat.ofDigitChars_replicate_zero]
      congr 1
      omega
    · next hneg =>
      split
      · next hlong =>
        rw [decimal_whole negative _ _ (by omega) rfl]
        congr 2
        omega
      · next hlong =>
        rw [decimal_split, Option.getD_none]
        congr 2
        omega
  · rw [decimal_split, Option.getD_some]
    congr 2
    omega

end NumberParts

/-- A decimal is written in parts that have its value. -/
theorem exists_parts_decimal {limit : Nat} (hlimit : 17 ≤ limit) (x : Decimal) :
    ∃ p : NumberParts, p.Plain limit ∧ p.text = NumberStyle.plain.writeDecimal x ∧
      ∀ negative, p.value negative = .float (.ofDecimal negative x) := by
  have hne : Nat.toDigits 10 x.coefficient ≠ [] := Nat.toDigits_ne_nil
  by_cases hzero : x.coefficient = 0
  · refine ⟨.ofDigits ['0'] 0, ?_, ?_, ?_⟩
    · refine NumberParts.plain_ofDigits ?_ (.inl rfl) (fun _ => rfl) hlimit
      intro c hc
      rw [List.mem_singleton.mp hc]
      rfl
    · unfold NumberStyle.writeDecimal
      rw [hzero]
      rfl
    · intro negative
      rw [Binary64.ofDecimal_of_zero negative hzero]
      rfl
  · obtain ⟨c, cs, hcons, hc⟩ := toDigits_lead hzero
    refine ⟨.ofDigits (Nat.toDigits 10 x.coefficient) (x.exponent + (Nat.toDigits 10 x.coefficient).length - 1),
      ?_, ?_, ?_⟩
    · refine NumberParts.plain_ofDigits isDigit_of_mem_toDigits (.inr ⟨c, cs, hcons, hc⟩) ?_ hlimit
      intro hone
      rw [hone] at hcons
      cases hcons
      exact absurd rfl hc
    · rw [NumberParts.text_ofDigits hne]
      unfold NumberStyle.writeDecimal
      dsimp only
      rw [if_neg hzero]
    · intro negative
      have hexponent : x.exponent + (Nat.toDigits 10 x.coefficient).length - 1 + 1 -
          (Nat.toDigits 10 x.coefficient).length = x.exponent := by omega
      unfold NumberParts.value
      rw [NumberParts.isInteger_ofDigits hne, NumberParts.decimal_ofDigits negative hne,
        Nat.ofDigitChars_ten_toDigits, hexponent]
      rfl

/-- A finite number is written in parts that have its value. -/
theorem exists_parts_finite {limit : Nat} (hlimit : 17 ≤ limit) (negative : Bool) (m : Magnitude) :
    ∃ p : NumberParts, p.Plain limit ∧ Binary64.signText negative ++ p.text = renderNumber (.finite negative m) ∧
      p.value negative = .float (.finite negative m) := by
  obtain ⟨p, hp, htext, hvalue⟩ := exists_parts_decimal hlimit (if m.units = 0 then ⟨0, 0⟩ else Decimal.shortest m)
  refine ⟨p, hp, ?_, ?_⟩
  · rw [htext]
    rfl
  · rw [hvalue negative]
    by_cases hzero : m.units = 0
    · rw [if_pos hzero, Binary64.ofDecimal_of_zero negative rfl, Decimal.units_eq_zero_iff.mp hzero]
      rfl
    · rw [if_neg hzero, Decimal.ofDecimal_shortest negative m]

/-- An integer that is not too long is written in parts that have its value. -/
theorem exists_parts_int {limit : Nat} {n : Int} (short : Number.digitCount n ≤ limit) :
    ∃ p : NumberParts, p.Plain limit ∧ Binary64.signText (decide (n < 0)) ++ p.text = Number.intText n ∧
      p.value (decide (n < 0)) = .int n := by
  refine ⟨⟨Nat.toDigits 10 n.natAbs, [], none⟩, ⟨isDigit_of_mem_toDigits, nofun, ?_, short⟩, ?_, ?_⟩
  · by_cases hzero : n.natAbs = 0
    · left
      dsimp only
      rw [hzero, Nat.toDigits_zero]
    · exact .inr (toDigits_lead hzero)
  · unfold NumberParts.text
    exact congrArg _ (List.append_nil _)
  · unfold NumberParts.value
    dsimp only
    rw [Nat.ofDigitChars_ten_toDigits, signedNat_natAbs]
    rfl

theorem words_eq : words = [(['n', 'u', 'l', 'l'], .null), (['t', 'r', 'u', 'e'], .bool true),
    (['f', 'a', 'l', 's', 'e'], .bool false), (['N', 'a', 'N'], .float .notANumber),
    (['I', 'n', 'f', 'i', 'n', 'i', 't', 'y'], .float (.infinite false)),
    (['-', 'I', 'n', 'f', 'i', 'n', 'i', 't', 'y'], .float (.infinite true))] := by
  unfold words
  simp

/-- No word is the start of another, so a word is read as itself. -/
theorem word?_word {word : List Char} {j : Json} (h : (word, j) ∈ words) (rest : List Char) :
    word? (word ++ rest) = some (j, rest) := by
  rw [words_eq] at h
  simp only [List.mem_cons, Prod.mk.injEq, List.not_mem_nil, or_false] at h
  rcases h with ⟨rfl, rfl⟩ | ⟨rfl, rfl⟩ | ⟨rfl, rfl⟩ | ⟨rfl, rfl⟩ | ⟨rfl, rfl⟩ | ⟨rfl, rfl⟩ <;> rfl

theorem beq_digit {c d : Char} (hc : c.isDigit = true) (hd : d.isDigit = false) : (d == c) = false := by
  rw [beq_eq_false_iff_ne]
  rintro rfl
  rw [hc] at hd
  cases hd

/-- No word starts as a number does. -/
theorem word?_number (negative : Bool) {c : Char} (hc : c.isDigit = true) (rest : List Char) :
    word? (Binary64.signText negative ++ c :: rest) = none := by
  unfold word?
  rw [words_eq]
  cases negative with
  | true => simp [Binary64.signText, List.find?, List.isPrefixOf, beq_digit hc]
  | false => simp [Binary64.signText, List.find?, List.isPrefixOf, beq_digit hc]

end TurtleGraphics.Json
