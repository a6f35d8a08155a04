import Mathlib.Tactic
import TurtleGraphics.Fault
import TurtleGraphics.Proofs.Json.Values

/-! What reading gives. Every value that is read fits: no integer is too long, no text has a pair of surrogates that
could still be joined, and the brackets are in their room. So it can be written and read again. -/

namespace TurtleGraphics

theorem Number.isWritable_of_natAbs_lt {n : Int} {e : Nat} (h : n.natAbs < Nat.pow 2 e) (he : e ≤ digitLimit) :
    (Number.int n).isWritable = true := by
  have hlt : n.natAbs < 10 ^ digitLimit := by
    calc n.natAbs < 2 ^ e := h
      _ ≤ 10 ^ e := Nat.pow_le_pow_left (by decide) e
      _ ≤ 10 ^ digitLimit := Nat.pow_le_pow_right (by decide) he
  exact decide_eq_true (Nat.toDigits_length 10 n.natAbs digitLimit (by decide) hlt)

namespace Json

theorem not_surrogate_char (c : Char) : ∀ unit, CodePoint.char c = .surrogate unit → 0xD800 ≤ unit ∧ unit < 0xE000 := by
  intro unit h
  cases h

theorem surrogate_of_unitPoint {unit u : Nat} (h : unitPoint unit = .surrogate u) : 0xD800 ≤ u ∧ u < 0xE000 := by
  unfold unitPoint at h
  split at h
  · next hs =>
    cases h
    rw [Bool.or_eq_true, isHighSurrogate_iff, isLowSurrogate_iff] at hs
    omega
  · cases h

theorem InRange.cons {p : CodePoint} {points : List CodePoint} (h : InRange points)
    (hp : ∀ unit, p = .surrogate unit → 0xD800 ≤ unit ∧ unit < 0xE000) : InRange (p :: points) := by
  intro unit hu
  rcases List.mem_cons.mp hu with heq | hu
  · exact hp unit heq.symm
  · exact h unit hu

section Points

variable {whole text rest : List Char} {points : List CodePoint}

theorem inRange_of_cons {tail : Read (List CodePoint)} {p : CodePoint}
    (hp : ∀ unit, p = .surrogate unit → 0xD800 ≤ unit ∧ unit < 0xE000)
    (ih : ∀ {rest points}, tail = .ok (points, rest) → InRange points)
    (h : (tail.map fun q => (p :: q.1, q.2)) = .ok (points, rest)) : InRange points := by
  obtain ⟨⟨behind, more⟩, htail, heq⟩ := ok_of_map_ok h
  cases heq
  exact (ih htail).cons hp

theorem inRange_of_readPoints (h : readPoints whole text = .ok (points, rest)) : InRange points := by
  fun_induction readPoints whole text generalizing points rest with
  | case1 => cases h
  | case2 =>
    cases h
    exact nofun
  | case3 => cases h
  | case4 a b c d more unit hunit hquote ih => exact inRange_of_cons (fun _ => surrogate_of_unitPoint) ih h
  | case5 => cases h
  | case6 => cases h
  | case7 e behind hu c hescape hquote ih => exact inRange_of_cons (not_surrogate_char _) ih h
  | case8 => cases h
  | case9 => cases h
  | case10 c behind hquote hback hcontrol ih => exact inRange_of_cons (not_surrogate_char _) ih h

end Points

theorem surrogate_mem_of_joinPairs {unit : Nat} {points : List CodePoint}
    (h : CodePoint.surrogate unit ∈ joinPairs points) : CodePoint.surrogate unit ∈ points := by
  fun_induction joinPairs points with
  | case1 => exact h
  | case2 c rest ih =>
    rcases List.mem_cons.mp h with heq | h
    · cases heq
    · exact List.mem_cons_of_mem _ (ih h)
  | case3 high low rest hpair ih =>
    rcases List.mem_cons.mp h with heq | h
    · cases heq
    · exact List.mem_cons_of_mem _ (List.mem_cons_of_mem _ (ih h))
  | case4 high low rest hpair ih =>
    rcases List.mem_cons.mp h with heq | h
    · rw [heq]
      exact List.mem_cons_self
    · exact List.mem_cons_of_mem _ (ih h)
  | case5 high rest hrest ih =>
    rcases List.mem_cons.mp h with heq | h
    · rw [heq]
      exact List.mem_cons_self
    · exact List.mem_cons_of_mem _ (ih h)

/-- Joining puts no surrogate at the front that was not there. -/
theorem surrogate_front_of_joinPairs {points more : List CodePoint} {unit : Nat}
    (h : joinPairs points = .surrogate unit :: more) : ∃ rest, points = .surrogate unit :: rest := by
  fun_cases joinPairs points with
  | case1 => cases h
  | case2 c rest => cases h
  | case3 high low rest hpair =>
    rw [joinPairs, if_pos hpair] at h
    cases h
  | case4 high low rest hpair =>
    rw [joinPairs, if_neg hpair] at h
    cases h
    exact ⟨_, rfl⟩
  | case5 high rest hrest =>
    rw [joinPairs_surrogate fun low more heq => (hrest low more heq).elim] at h
    cases h
    exact ⟨_, rfl⟩

theorem joinPairs_joinPairs (points : List CodePoint) : joinPairs (joinPairs points) = joinPairs points := by
  fun_induction joinPairs points with
  | case1 => rfl
  | case2 c rest ih => rw [joinPairs, ih]
  | case3 high low rest hpair ih => rw [joinPairs, ih]
  | case4 high low rest hpair ih =>
    -- What is joined behind the surrogate still starts with the same one, or with a character.
    rw [joinPairs_surrogate, ih]
    intro unit more heq
    obtain ⟨tail, htail⟩ := surrogate_front_of_joinPairs heq
    cases htail
    rwa [Bool.not_eq_true] at hpair
  | case5 high rest hrest ih =>
    rw [joinPairs_surrogate, ih]
    intro unit more heq
    obtain ⟨tail, htail⟩ := surrogate_front_of_joinPairs heq
    exact (hrest unit tail htail).elim

theorem isRead_ofPoints {points : List CodePoint} (hrange : InRange points) (hjoined : joinPairs points = points) :
    IsRead (.ofPoints points) := by
  cases hof : LooseText.ofPoints points with
  | whole s => trivial
  | broken others =>
    have hsame : others = points := by
      unfold LooseText.ofPoints at hof
      split at hof
      · cases hof
      · cases hof
        rfl
    subst hsame
    exact ⟨hrange, hjoined, hof⟩

theorem isRead_of_readString {text rest : List Char} {s : LooseText} (h : readString text = .ok (s, rest)) :
    IsRead s := by
  obtain ⟨⟨points, more⟩, hpoints, heq⟩ := ok_of_map_ok h
  cases heq
  have hrange := inRange_of_readPoints hpoints
  exact isRead_ofPoints (fun unit hu => hrange unit (surrogate_mem_of_joinPairs hu)) (joinPairs_joinPairs points)

theorem isRead_of_readName {text rest : List Char} {name : LooseText} (h : readName text = .ok (name, rest)) :
    IsRead name := by
  unfold readName at h
  split at h
  · split at h
    · cases h
    · next hname =>
      split at h
      · cases h
        exact isRead_of_readString hname
      · cases h
  · cases h

theorem ofDigitChars_lt {digits : List Char} (h : ∀ c ∈ digits, c.isDigit = true) :
    Nat.ofDigitChars 10 digits 0 < 10 ^ digits.length := by
  induction digits with
  | nil => exact Nat.one_pos
  | cons c digits ih =>
    have hrest := ih fun b hb => h b (List.mem_cons_of_mem c hb)
    have hdigit : c.toNat - '0'.toNat ≤ 9 := by
      have hc := h c List.mem_cons_self
      rw [Char.isDigit_iff_toNat] at hc
      exact Nat.sub_le_of_le_add hc.2
    rw [Nat.ofDigitChars_cons, Nat.mul_zero, Nat.zero_add, Nat.ofDigitChars_eq_ofDigitChars_zero, List.length_cons,
      Nat.pow_succ]
    have hfirst := Nat.mul_le_mul_left (10 ^ digits.length) hdigit
    omega

/-- An integer has at most as many digits as it was read from. -/
theorem digitCount_signedNat (negative : Bool) {digits : List Char} {limit : Nat}
    (h : ∀ c ∈ digits, c.isDigit = true) (hpos : 0 < limit) (hshort : digits.length ≤ limit) :
    Number.digitCount (Numeral.signedNat negative (Nat.ofDigitChars 10 digits 0)) ≤ limit := by
  have hvalue : (Numeral.signedNat negative (Nat.ofDigitChars 10 digits 0)).natAbs < 10 ^ limit := by
    have habs : (Numeral.signedNat negative (Nat.ofDigitChars 10 digits 0)).natAbs = Nat.ofDigitChars 10 digits 0 := by
      cases negative
      · exact Int.natAbs_natCast _
      · exact (Int.natAbs_neg _).trans (Int.natAbs_natCast _)
    rw [habs]
    exact Nat.lt_of_lt_of_le (ofDigitChars_lt h) (Nat.pow_le_pow_right (by decide) hshort)
  exact Nat.toDigits_length 10 _ limit hpos hvalue

theorem signedNat_neg_iff (negative : Bool) {n : Nat} (h : n ≠ 0) :
    decide (Numeral.signedNat negative n < 0) = negative := by
  unfold Numeral.signedNat
  cases negative <;> simp [Nat.pos_of_ne_zero h]

/-- An integer that is not too long behind its sign is not too long by its own sign: only a zero can lose one. -/
theorem digitCount_le_digits (d : Dialect) (negative : Bool) {digits : List Char}
    (h : ∀ c ∈ digits, c.isDigit = true) (hshort : digits.length ≤ d.digits negative) :
    Number.digitCount (Numeral.signedNat negative (Nat.ofDigitChars 10 digits 0)) ≤
      d.digits (decide (Numeral.signedNat negative (Nat.ofDigitChars 10 digits 0) < 0)) := by
  by_cases hzero : Nat.ofDigitChars 10 digits 0 = 0
  · have hone : Number.digitCount (Numeral.signedNat negative 0) = 1 := by cases negative <;> rfl
    have henough := d.enough (decide (Numeral.signedNat negative 0 < 0))
    rw [hzero, hone]
    omega
  · rw [signedNat_neg_iff negative hzero]
    have henough := d.enough negative
    exact digitCount_signedNat negative h (by omega) hshort

theorem isDigit_of_mem_wholeDigits {text : List Char} : ∀ c ∈ wholeDigits text, c.isDigit = true := by
  intro c hc
  unfold wholeDigits at hc
  split at hc
  · rw [List.mem_singleton.mp hc]
    rfl
  · exact of_mem_takeWhile hc

theorem fits_of_readNumber {d : Dialect} {room : Nat} {text rest : List Char} {j : Json}
    (h : readNumber d text = .ok (j, rest)) : Fits d room j := by
  unfold readNumber at h
  dsimp only at h
  split at h
  · cases h
  · split at h
    · cases h
    · next hshort =>
      split at h
      · next hinteger =>
        cases h
        rw [hinteger, Bool.true_or, Bool.true_and, decide_eq_true_eq] at hshort
        exact .int room (digitCount_le_digits d _ isDigit_of_mem_wholeDigits (Nat.not_lt.mp hshort))
      · cases h
        exact .float room _

theorem fits_of_word {d : Dialect} {room : Nat} {text rest : List Char} {j : Json} (h : word? text = some (j, rest)) :
    Fits d room j := by
  obtain ⟨w, hw, heq⟩ := Option.map_eq_some_iff.mp h
  cases heq
  have hmem := List.mem_of_find?_eq_some hw
  simp only [words, List.mem_cons, List.not_mem_nil, or_false] at hmem
  rcases hmem with rfl | rfl | rfl | rfl | rfl | rfl
  · exact .null room
  · exact .bool room true
  · exact .bool room false
  · exact .float room _
  · exact .float room _
  · exact .float room _

section Values

variable {d : Dialect}

theorem ok_of_enter {α : Type} {bracket : Bracket} {room : Nat} {read : Nat → Read α} {p : α × List Char}
    (h : enter bracket room read = .ok p) : ∃ inner, room = inner + 1 ∧ read inner = .ok p := by
  cases room with
  | zero => cases h
  | succ inner => exact ⟨inner, rfl, h⟩

structure Readings (d : Dialect) (fuel : Nat) : Prop where
  value : ∀ {room text j rest}, readValue d fuel room text = .ok (j, rest) → Fits d room j
  items : ∀ {room text items rest}, readItems d fuel room text = .ok (items, rest) → ∀ j ∈ items, Fits d room j
  members : ∀ {room text members rest}, readMembers d fuel room text = .ok (members, rest) →
    ∀ m ∈ members, IsRead m.1 ∧ Fits d room m.2

variable {fuel : Nat} (ih : Readings d fuel)

include ih

theorem Readings.fits_value {room : Nat} {text rest : List Char} {j : Json}
    (h : readValue d (fuel + 1) room text = .ok (j, rest)) : Fits d room j := by
  cases text with
  | nil => cases h
  | cons c text =>
    rw [readValue] at h
    split at h
    · obtain ⟨⟨s, more⟩, hs, heq⟩ := ok_of_map_ok h
      cases heq
      exact .string room (isRead_of_readString hs)
    · split at h
      · split at h
        · cases h
          exact .noItems room
        · obtain ⟨⟨items, more⟩, hitems, heq⟩ := ok_of_map_ok h
          cases heq
          obtain ⟨inner, rfl, hread⟩ := ok_of_enter hitems
          exact .array (ih.items hread)
      · split at h
        · split at h
          · cases h
            exact .noMembers room
          · obtain ⟨⟨members, more⟩, hmembers, heq⟩ := ok_of_map_ok h
            cases heq
            obtain ⟨inner, rfl, hread⟩ := ok_of_enter hmembers
            exact .object (fun m hm => (ih.members hread m hm).1) fun m hm => (ih.members hread m hm).2
        · split at h
          · next hword =>
            cases h
            exact fits_of_word hword
          · exact fits_of_readNumber h

theorem Readings.fits_items {room : Nat} {text rest : List Char} {items : List Json}
    (h : readItems d (fuel + 1) room text = .ok (items, rest)) : ∀ j ∈ items, Fits d room j := by
  rw [readItems] at h
  split at h
  · cases h
  · next item behind hitem =>
    have hfirst := ih.value hitem
    split at h
    · cases h
      intro j hj
      rw [List.mem_singleton.mp hj]
      exact hfirst
    · obtain ⟨⟨more, after⟩, hmore, heq⟩ := ok_of_map_ok h
      cases heq
      exact List.forall_mem_cons.mpr ⟨hfirst, ih.items hmore⟩
    · cases h

theorem Readings.fits_members {room : Nat} {text rest : List Char} {members : List (LooseText × Json)}
    (h : readMembers d (fuel + 1) room text = .ok (members, rest)) : ∀ m ∈ members, IsRead m.1 ∧ Fits d room m.2 := by
  rw [readMembers] at h
  split at h
  · cases h
  · next name body hname =>
    split at h
    · cases h
    · next value behind hvalue =>
      have hfirst := And.intro (isRead_of_readName hname) (ih.value hvalue)
      split at h
      · cases h
        intro m hm
        rw [List.mem_singleton.mp hm]
        exact hfirst
      · obtain ⟨⟨more, after⟩, hmore, heq⟩ := ok_of_map_ok h
        cases heq
        exact List.forall_mem_cons.mpr ⟨hfirst, ih.members hmore⟩
      · cases h

omit ih

/-- The three readers call each other with less fuel, so what they give is known for all fuel at once. -/
theorem readings (d : Dialect) (fuel : Nat) : Readings d fuel := by
  induction fuel with
  | zero => exact ⟨nofun, nofun, nofun⟩
  | succ fuel ih => exact ⟨ih.fits_value, ih.fits_items, ih.fits_members⟩

end Values

theorem fits_of_parse {d : Dialect} {text : List Char} {j : Json} (h : parse d text = .ok j) : Fits d d.deepest j := by
  unfold parse at h
  split at h
  · cases h
  · cases hall : readAll d text with
    | error s =>
      rw [hall] at h
      cases h
    | ok k =>
      rw [hall] at h
      cases h
      unfold readAll at hall
      split at hall
      · cases hall
      · next hvalue =>
        split at hall
        · cases hall
          exact (readings d _).value hvalue
        · cases hall

end Json

end TurtleGraphics
