import Mathlib.Tactic
import TurtleGraphics.Proofs.Json.Numbers
import TurtleGraphics.Proofs.Json.Texts

/-! JSON values without brackets, and the blanks between values. -/

namespace TurtleGraphics.Json

def IsBlank (text : List Char) : Prop := ∀ c ∈ text, isSpace c = true

theorem isBlank_lineBreak (layout : Layout) (level : Nat) : IsBlank (layout.lineBreak level) := by
  intro c hc
  cases layout with
  | oneLine => cases hc
  | indented step =>
    rcases List.mem_cons.mp hc with rfl | hc
    · rfl
    · rw [List.eq_of_mem_replicate hc]
      rfl

theorem separator_cons (layout : Layout) (level : Nat) :
    ∃ blank, layout.separator level = ',' :: blank ∧ IsBlank blank := by
  cases layout with
  | oneLine =>
    refine ⟨[' '], rfl, ?_⟩
    intro c hc
    rw [List.mem_singleton.mp hc]
    rfl
  | indented step => exact ⟨_, rfl, isBlank_lineBreak (.indented step) level⟩

theorem skipSpace_cons {c : Char} (h : isSpace c = false) (rest : List Char) : skipSpace (c :: rest) = c :: rest :=
  List.dropWhile_cons_of_neg (by simp [h])

theorem skipSpace_blank {blank : List Char} (hb : IsBlank blank) {c : Char} (h : isSpace c = false)
    (rest : List Char) : skipSpace (blank ++ c :: rest) = c :: rest := by
  unfold skipSpace
  rw [List.dropWhile_append_of_pos hb]
  exact skipSpace_cons h rest

/-- What ends a number: a blank, a comma or a closing bracket. -/
def IsMark (c : Char) : Prop := isSpace c = true ∨ c = ',' ∨ c = ']' ∨ c = '\x7d'

theorem IsMark.numberEnd {c : Char} (h : IsMark c) (rest : List Char) : NumberEnd (c :: rest) := by
  intro c' cs heq
  cases heq
  unfold IsMark isSpace at h
  simp only [Bool.or_eq_true, decide_eq_true_eq] at h
  rcases h with (((rfl | rfl) | rfl) | rfl) | rfl | rfl | rfl <;> decide

theorem numberEnd_blank {blank : List Char} (hb : IsBlank blank) {c : Char} (hc : IsMark c) (rest : List Char) :
    NumberEnd (blank ++ c :: rest) := by
  cases blank with
  | nil => exact hc.numberEnd rest
  | cons b blank => exact IsMark.numberEnd (.inl (hb b List.mem_cons_self)) (blank ++ c :: rest)

/-- A value starts neither with a blank, nor with the bracket that would close an array, nor with a byte order mark. -/
def isStart (c : Char) : Bool := !isSpace c && c ≠ ']' && c ≠ '\uFEFF'

theorem isStart_iff {c : Char} : isStart c = true ↔ isSpace c = false ∧ c ≠ ']' ∧ c ≠ '\uFEFF' := by
  unfold isStart
  rw [Bool.and_eq_true, Bool.and_eq_true, Bool.not_eq_true', decide_eq_true_eq, decide_eq_true_eq, and_assoc]

/-- A number starts with a minus sign or a digit. -/
theorem exists_lead (negative : Bool) {limit : Nat} {p : NumberParts} (h : p.Plain limit) :
    ∃ c cs, (c = '-' ∨ c.isDigit = true) ∧ Binary64.signText negative ++ p.text = c :: cs := by
  obtain ⟨c, cs, hc, htext⟩ := h.exists_digit
  cases negative with
  | true => exact ⟨'-', p.text, .inl rfl, rfl⟩
  | false => exact ⟨c, cs, .inr hc, htext⟩

theorem ne_of_lead {c b : Char} (hc : c = '-' ∨ c.isDigit = true) (hb : b ≠ '-' ∧ b.isDigit = false) : c ≠ b := by
  rintro rfl
  rcases hc with hminus | hdigit
  · exact hb.1 hminus
  · rw [hb.2] at hdigit
    cases hdigit

theorem isStart_of_lead {c : Char} (hc : c = '-' ∨ c.isDigit = true) : isStart c = true := by
  have hspace : isSpace c = false := by
    unfold isSpace
    rw [decide_eq_false (ne_of_lead hc (by decide)), decide_eq_false (ne_of_lead hc (by decide)),
      decide_eq_false (ne_of_lead hc (by decide)), decide_eq_false (ne_of_lead hc (by decide))]
    rfl
  exact isStart_iff.mpr ⟨hspace, ne_of_lead hc (by decide), ne_of_lead hc (by decide)⟩

theorem exists_start_word {word : List Char} {j : Json} (h : (word, j) ∈ words) :
    ∃ c cs, word = c :: cs ∧ isStart c = true ∧ c ≠ '"' ∧ c ≠ '[' ∧ c ≠ '\x7b' := by
  rw [words_eq] at h
  simp only [List.mem_cons, Prod.mk.injEq, List.not_mem_nil, or_false] at h
  rcases h with ⟨rfl, -⟩ | ⟨rfl, -⟩ | ⟨rfl, -⟩ | ⟨rfl, -⟩ | ⟨rfl, -⟩ | ⟨rfl, -⟩ <;>
  exact ⟨_, _, rfl, by decide, by decide, by decide, by decide⟩

section Single

variable (d : Dialect) (fuel room : Nat)

section Other

variable {c : Char} (hquote : c ≠ '"') (hsquare : c ≠ '[') (hcurly : c ≠ '\x7b') {rest : List Char}

include hquote hsquare hcurly

theorem readValue_of_word {p : Json × List Char} (h : word? (c :: rest) = some p) :
    readValue d (fuel + 1) room (c :: rest) = .ok p := by
  rw [readValue, if_neg hquote, if_neg hsquare, if_neg hcurly, h]

theorem readValue_of_number (h : word? (c :: rest) = none) :
    readValue d (fuel + 1) room (c :: rest) = readNumber d (c :: rest) := by
  rw [readValue, if_neg hquote, if_neg hsquare, if_neg hcurly, h]

end Other

theorem readValue_word {word : List Char} {j : Json} (h : (word, j) ∈ words) (rest : List Char) :
    readValue d (fuel + 1) room (word ++ rest) = .ok (j, rest) := by
  have hword := word?_word h rest
  obtain ⟨c, cs, hcons, -, hquote, hsquare, hcurly⟩ := exists_start_word h
  rw [hcons, List.cons_append] at hword ⊢
  exact readValue_of_word d fuel room hquote hsquare hcurly hword

theorem readValue_number (negative : Bool) {p : NumberParts} (h : p.Plain (d.digits negative)) {rest : List Char}
    (hr : NumberEnd rest) :
    readValue d (fuel + 1) room (Binary64.signText negative ++ p.text ++ rest) = .ok (p.value negative, rest) := by
  obtain ⟨c, cs, hc, htext⟩ := exists_lead negative h
  have hnumber := readNumber_text d negative h hr
  have hword : word? (Binary64.signText negative ++ p.text ++ rest) = none := by
    obtain ⟨c, cs, hdigit, htext⟩ := h.exists_digit
    rw [htext, List.append_assoc]
    exact word?_number negative hdigit (cs ++ rest)
  rw [htext, List.cons_append] at hnumber hword ⊢
  have hread := readValue_of_number d fuel room (ne_of_lead hc (by decide)) (ne_of_lead hc (by decide))
    (ne_of_lead hc (by decide)) hword
  exact hread.trans hnumber

theorem readValue_string {s : LooseText} (hs : IsRead s) (rest : List Char) :
    readValue d (fuel + 1) room (renderLoose s ++ rest) = .ok (.string s, rest) := by
  obtain ⟨body, hbody, hread⟩ := readString_renderLoose hs
  rw [hbody, List.cons_append, readValue, if_pos rfl, hread]
  rfl

end Single

/-- What reading a value back from its text means, with fuel by the length of the text. -/
structure ReadsBack (d : Dialect) (layout : Layout) (room : Nat) (j : Json) : Prop where
  start (level : Nat) : ∃ c cs, render layout level j = c :: cs ∧ isStart c = true
  read (fuel level : Nat) {rest : List Char} (hf : 2 * (render layout level j).length ≤ fuel)
    (hr : NumberEnd rest) : readValue d fuel room (render layout level j ++ rest) = .ok (j, rest)

section ReadsBack

variable {d : Dialect} {layout : Layout} {room : Nat}

/-- A value whose text is that of a number. -/
theorem readsBack_number {negative : Bool} {p : NumberParts} {j : Json} (h : p.Plain (d.digits negative))
    (htext : ∀ level, render layout level j = Binary64.signText negative ++ p.text) (hvalue : p.value negative = j) :
    ReadsBack d layout room j := by
  obtain ⟨c, cs, hc, hcons⟩ := exists_lead negative h
  constructor
  · intro level
    exact ⟨c, cs, (htext level).trans hcons, isStart_of_lead hc⟩
  · intro fuel level rest hf hr
    obtain ⟨n, rfl⟩ : ∃ n, fuel = n + 1 := by
      rw [htext level, hcons, List.length_cons] at hf
      exact ⟨fuel - 1, by omega⟩
    rw [htext level, readValue_number d n room negative h hr, hvalue]

/-- A value whose text is read in one step, whatever follows. -/
theorem readsBack_single {j : Json} {c : Char} {cs : List Char} (htext : ∀ level, render layout level j = c :: cs)
    (hc : isStart c = true)
    (hread : ∀ fuel rest, readValue d (fuel + 1) room (c :: cs ++ rest) = .ok (j, rest)) :
    ReadsBack d layout room j := by
  constructor
  · intro level
    exact ⟨c, cs, htext level, hc⟩
  · intro fuel level rest hf _
    obtain ⟨n, rfl⟩ : ∃ n, fuel = n + 1 := by
      rw [htext level, List.length_cons] at hf
      exact ⟨fuel - 1, by omega⟩
    rw [htext level]
    exact hread n rest

theorem readsBack_word (word : List Char) {j : Json} (h : (word, j) ∈ words)
    (htext : ∀ level, render layout level j = word) : ReadsBack d layout room j := by
  obtain ⟨c, cs, hcons, hc, -⟩ := exists_start_word h
  refine readsBack_single (fun level => (htext level).trans hcons) hc ?_
  intro fuel rest
  rw [← hcons]
  exact readValue_word d fuel room h rest

theorem readsBack_string {s : LooseText} (hs : IsRead s) : ReadsBack d layout room (.string s) := by
  obtain ⟨body, hbody, -⟩ := readString_renderLoose hs
  have htext : ∀ level, render layout level (.string s) = '"' :: body := fun level => by rw [render, hbody]
  refine readsBack_single htext rfl ?_
  intro fuel rest
  rw [← hbody]
  exact readValue_string d fuel room hs rest

theorem readsBack_float (x : Binary64) : ReadsBack d layout room (.float x) := by
  cases x with
  | notANumber =>
    refine readsBack_word "NaN".toList ?_ fun level => by rw [render]; rfl
    simp [words]
  | infinite negative =>
    cases negative with
    | true =>
      refine readsBack_word "-Infinity".toList ?_ fun level => by rw [render]; rfl
      simp [words]
    | false =>
      refine readsBack_word "Infinity".toList ?_ fun level => by rw [render]; rfl
      simp [words]
  | finite negative m =>
    obtain ⟨p, hp, htext, hvalue⟩ := exists_parts_finite (d.enough negative) negative m
    exact readsBack_number hp (fun level => by rw [render, htext]) hvalue

end ReadsBack

end TurtleGraphics.Json
