import Mathlib.Tactic
import TurtleGraphics.Proofs.Json.Spelling

/-! Numbers in free text. A text is read as a number exactly when it spells the number: bare, with blanks around it, or
with single underscores inside it. -/

namespace TurtleGraphics.Numeral

open Json (IsRun SpellsSign SpellsPower DigitEnd NumberEnd)

/-- A point with digits behind it, perhaps none, or nothing. -/
inductive SpellsPoint : List Char → List Char → Prop where
  | none : SpellsPoint [] []
  | digits {fraction : List Char} : (∀ c ∈ fraction, c.isDigit = true) → SpellsPoint ('.' :: fraction) fraction

/-- Digits on one side of a point at least, and perhaps a power of ten. -/
inductive SpellsUnsigned : List Char → Decimal → Prop where
  | parts {whole pointText fraction powerText : List Char} {power : Option Int}
      (digits : ∀ c ∈ whole, c.isDigit = true) (point : SpellsPoint pointText fraction)
      (nonempty : whole ≠ [] ∨ fraction ≠ []) (powered : SpellsPower powerText power) :
      SpellsUnsigned (whole ++ (pointText ++ powerText)) (.ofDigits whole fraction (power.getD 0))

/-- A sign or none, and behind it digits or one of the names, in any case. -/
inductive SpellsBare : List Char → Binary64 → Prop where
  | infinity {sign name : List Char} {negative : Bool} (signed : SpellsSign sign negative)
      (named : name.map Char.toLower ∈ infinityNames) : SpellsBare (sign ++ name) (.infinite negative)
  | notANumber {sign name : List Char} {negative : Bool} (signed : SpellsSign sign negative)
      (named : name.map Char.toLower = ['n', 'a', 'n']) : SpellsBare (sign ++ name) .notANumber
  | decimal {sign body : List Char} {negative : Bool} {d : Decimal} (signed : SpellsSign sign negative)
      (spelled : SpellsUnsigned body d) : SpellsBare (sign ++ body) (.ofDecimal negative d)

/-- Pieces with single underscores between them, and the pieces without these. -/
inductive Underscored : List Char → List Char → Prop where
  | last {piece : List Char} (nonempty : piece ≠ []) (plain : '_' ∉ piece) : Underscored piece piece
  | cons {piece text bare : List Char} (nonempty : piece ≠ []) (plain : '_' ∉ piece) :
      Underscored text bare → Underscored (piece ++ '_' :: text) (piece ++ bare)

/-- A bare number with blanks around it, or with underscores inside it. -/
inductive Spells : List Char → Binary64 → Prop where
  | blanks {before text after : List Char} {x : Binary64} (front : ∀ c ∈ before, Text.isBlank c = true)
      (spelled : SpellsBare text x) (back : ∀ c ∈ after, Text.isBlank c = true) : Spells (before ++ (text ++ after)) x
  | underscores {text bare : List Char} {x : Binary64} (marked : Underscored text bare)
      (spelled : SpellsBare bare x) : Spells text x

/-- A character of a bare number: neither a blank nor an underscore. -/
def IsPlain (c : Char) : Prop := Text.isBlank c = false ∧ c ≠ '_'

def IsLetter (c : Char) : Prop := 65 ≤ c.toNat ∧ c.toNat ≤ 90 ∨ 97 ≤ c.toNat ∧ c.toNat ≤ 122

instance : DecidablePred IsLetter := fun _ => inferInstanceAs (Decidable (_ ∨ _))

def IsName (name : List Char) : Prop := name.map Char.toLower ∈ ['n', 'a', 'n'] :: infinityNames

theorem isPlain_of_toNat {c : Char} (h : 33 ≤ c.toNat ∧ c.toNat ≤ 132 ∧ c.toNat ≠ 95) : IsPlain c := by
  refine ⟨?_, fun heq => h.2.2 (congrArg Char.toNat heq)⟩
  rw [Bool.eq_false_iff]
  unfold Text.isBlank
  simp only [ne_eq, Bool.or_eq_true, Bool.and_eq_true, decide_eq_true_eq, beq_iff_eq]
  omega

theorem isPlain_of_isDigit {c : Char} (h : c.isDigit = true) : IsPlain c := by
  have hrange : 48 ≤ c.toNat ∧ c.toNat ≤ 57 := Char.isDigit_iff_toNat.mp h
  exact isPlain_of_toNat (by omega)

theorem IsLetter.isPlain {c : Char} (h : IsLetter c) : IsPlain c := by
  unfold IsLetter at h
  exact isPlain_of_toNat (by omega)

theorem toLower_eq_self {c : Char} (h : ¬(65 ≤ c.toNat ∧ c.toNat ≤ 90)) : c.toLower = c := by
  unfold Char.toLower
  rw [dif_neg]
  rintro ⟨hlow, hhigh⟩
  exact h ⟨UInt32.le_iff_toNat_le.mp hlow, UInt32.le_iff_toNat_le.mp hhigh⟩

theorem isLetter_of_isName {name : List Char} (h : IsName name) : ∀ c ∈ name, IsLetter c := by
  intro c hc
  by_cases hupper : 65 ≤ c.toNat ∧ c.toNat ≤ 90
  · exact .inl hupper
  · have hlower : c ∈ name.map Char.toLower := List.mem_map.mpr ⟨c, hc, toLower_eq_self hupper⟩
    have hletters : (['n', 'a', 'n'] :: infinityNames).all (·.all fun b => decide (IsLetter b)) = true := by decide
    exact of_decide_eq_true (List.all_eq_true.mp (List.all_eq_true.mp hletters _ h) c hlower)

theorem exists_cons_of_isName {name : List Char} (h : IsName name) : ∃ c cs, name = c :: cs ∧ IsLetter c := by
  cases name with
  | nil =>
    have hempty : [] ∉ ['n', 'a', 'n'] :: infinityNames := by decide
    exact absurd h hempty
  | cons c cs => exact ⟨c, cs, rfl, isLetter_of_isName h c List.mem_cons_self⟩

theorem isPlain_of_sign {sign : List Char} {negative : Bool} (h : SpellsSign sign negative) :
    ∀ c ∈ sign, IsPlain c := by
  intro c hc
  cases h with
  | minus => exact List.mem_singleton.mp hc ▸ isPlain_of_toNat (by decide)
  | plus => exact List.mem_singleton.mp hc ▸ isPlain_of_toNat (by decide)
  | none => cases hc

theorem isPlain_of_power {text : List Char} {power : Option Int} (h : SpellsPower text power) :
    ∀ c ∈ text, IsPlain c := by
  intro c hc
  cases h with
  | none => cases hc
  | digits lead signed run =>
    rcases List.mem_cons.mp hc with rfl | hc
    · rcases lead with rfl | rfl <;> exact isPlain_of_toNat (by decide)
    · rcases List.mem_append.mp hc with hsign | hdigit
      · exact isPlain_of_sign signed c hsign
      · exact isPlain_of_isDigit (run.digits c hdigit)

theorem SpellsPoint.isPlain {text fraction : List Char} (h : SpellsPoint text fraction) : ∀ c ∈ text, IsPlain c := by
  intro c hc
  cases h with
  | none => cases hc
  | digits hfraction =>
    rcases List.mem_cons.mp hc with rfl | hdigit
    · exact isPlain_of_toNat (by decide)
    · exact isPlain_of_isDigit (hfraction c hdigit)

theorem SpellsUnsigned.isPlain {text : List Char} {d : Decimal} (h : SpellsUnsigned text d) :
    ∀ c ∈ text, IsPlain c := by
  intro c hc
  cases h with
  | parts digits point _ powered =>
    rcases List.mem_append.mp hc with hdigit | hc
    · exact isPlain_of_isDigit (digits c hdigit)
    · rcases List.mem_append.mp hc with hpoint | hpower
      · exact point.isPlain c hpoint
      · exact isPlain_of_power powered c hpower

theorem SpellsBare.isPlain {text : List Char} {x : Binary64} (h : SpellsBare text x) : ∀ c ∈ text, IsPlain c := by
  intro c hc
  cases h with
  | infinity signed named =>
    rcases List.mem_append.mp hc with hsign | hname
    · exact isPlain_of_sign signed c hsign
    · exact (isLetter_of_isName (List.mem_cons_of_mem _ named) c hname).isPlain
  | notANumber signed named =>
    rcases List.mem_append.mp hc with hsign | hname
    · exact isPlain_of_sign signed c hsign
    · exact (isLetter_of_isName (List.mem_cons.mpr (.inl named)) c hname).isPlain
  | decimal signed spelled =>
    rcases List.mem_append.mp hc with hsign | hbody
    · exact isPlain_of_sign signed c hsign
    · exact spelled.isPlain c hbody

section Unsigned

variable {text : List Char}

theorem start_of_power {power : Option Int} (h : SpellsPower text power) :
    ∀ c cs, text = c :: cs → c.isDigit = false ∧ c ≠ '.' := by
  have hend := h.end_append (nofun : NumberEnd [])
  rwa [List.append_nil] at hend

theorem splitFraction_of_spells {pointText fraction : List Char} (h : SpellsPoint pointText fraction)
    (hr : ∀ c cs, text = c :: cs → c.isDigit = false ∧ c ≠ '.') :
    splitFraction (pointText ++ text) = (fraction, text) := by
  cases h with
  | none =>
    rw [List.nil_append]
    unfold splitFraction
    split
    · next rest => exact absurd rfl (hr '.' rest rfl).2
    · rfl
  | digits hfraction =>
    have hend : DigitEnd text := fun c cs hc => (hr c cs hc).1
    rw [List.cons_append, splitFraction, Json.takeWhile_digits hfraction hend, Json.dropWhile_digits hfraction hend]

theorem spells_of_splitFraction (text : List Char) :
    ∃ pointText, text = pointText ++ (splitFraction text).2 ∧ SpellsPoint pointText (splitFraction text).1 := by
  unfold splitFraction
  split
  · next rest =>
    refine ⟨'.' :: rest.takeWhile Char.isDigit, ?_, .digits fun _ => Json.of_mem_takeWhile⟩
    rw [List.cons_append, List.takeWhile_append_dropWhile]
  · exact ⟨[], rfl, .none⟩

theorem isDigits_iff : isDigits text = true ↔ IsRun text := by
  unfold isDigits
  rw [Bool.and_eq_true, Bool.not_eq_true', List.isEmpty_eq_false_iff, List.all_eq_true]
  exact ⟨fun ⟨hne, hall⟩ => ⟨hne, hall⟩, fun h => ⟨h.nonempty, h.digits⟩⟩

theorem exponent?_of_spells {sign digits : List Char} {negative : Bool} (signed : SpellsSign sign negative)
    (run : IsRun digits) :
    exponent? (sign ++ digits) = some (signedNat negative (Nat.ofDigitChars 10 digits 0)) := by
  have hsign := Json.splitSign_of_spells signed run []
  rw [List.append_nil] at hsign
  unfold exponent?
  rw [hsign]
  dsimp only
  rw [if_pos (isDigits_iff.mpr run)]

theorem spells_of_exponent? {mark : Char} {e : Int} (lead : mark = 'e' ∨ mark = 'E') (h : exponent? text = some e) :
    SpellsPower (mark :: text) (some e) := by
  obtain ⟨sign, htext, hsign⟩ := Json.spells_of_splitSign text
  unfold exponent? at h
  generalize splitSign text = signed at *
  obtain ⟨negative, digits⟩ := signed
  dsimp only at h
  split at h
  · next hdigits =>
    cases h
    rw [htext]
    exact .digits lead hsign (isDigits_iff.mp hdigits)
  · cases h

theorem unsigned?_of_spells {d : Decimal} (h : SpellsUnsigned text d) : unsigned? text = some d := by
  cases h with
  | @parts whole pointText fraction powerText power digits point nonempty powered =>
    have hstart := start_of_power powered
    have hend : DigitEnd (pointText ++ powerText) := by
      intro c cs hc
      cases point with
      | none => exact (hstart c cs hc).1
      | digits _ =>
        cases hc
        rfl
    have hempty : (whole.isEmpty && fraction.isEmpty) = false := by
      rw [Bool.and_eq_false_iff, List.isEmpty_eq_false_iff, List.isEmpty_eq_false_iff]
      exact nonempty
    unfold unsigned?
    rw [Json.takeWhile_digits digits hend, Json.dropWhile_digits digits hend, splitFraction_of_spells point hstart]
    dsimp only
    rw [hempty]
    cases powered with
    | none => rfl
    | digits lead signed run =>
      dsimp only
      rw [if_pos lead, exponent?_of_spells signed run]
      rfl

theorem spells_of_unsigned? {d : Decimal} (h : unsigned? text = some d) : SpellsUnsigned text d := by
  have hdigits : ∀ c ∈ text.takeWhile Char.isDigit, c.isDigit = true :=
    fun _ => Json.of_mem_takeWhile
  have htext := List.takeWhile_append_dropWhile (p := Char.isDigit) (l := text)
  obtain ⟨pointText, hbehind, hpoint⟩ := spells_of_splitFraction (text.dropWhile Char.isDigit)
  unfold unsigned? at h
  rw [← htext, hbehind]
  dsimp only at h
  generalize splitFraction (text.dropWhile Char.isDigit) = split at *
  obtain ⟨fraction, rest⟩ := split
  dsimp only at h hpoint ⊢
  split at h
  · cases h
  · next hempty =>
    have hnonempty : text.takeWhile Char.isDigit ≠ [] ∨ fraction ≠ [] := by
      simpa [Bool.and_eq_true, imp_iff_not_or] using hempty
    split at h
    · cases h
      exact .parts hdigits hpoint hnonempty .none
    · next mark power =>
      split at h
      · next hmark =>
        obtain ⟨e, he, rfl⟩ := Option.map_eq_some_iff.mp h
        exact .parts hdigits hpoint hnonempty (spells_of_exponent? hmark he)
      · cases h

theorem unsigned?_eq_some_iff {d : Decimal} : unsigned? text = some d ↔ SpellsUnsigned text d :=
  ⟨spells_of_unsigned?, unsigned?_of_spells⟩

end Unsigned

section Bare

variable {text : List Char} {x : Binary64}

theorem start_of_isName {name : List Char} (h : IsName name) : ∃ c cs, name = c :: cs ∧ c ≠ '-' ∧ c ≠ '+' := by
  obtain ⟨c, cs, rfl, hletter⟩ := exists_cons_of_isName h
  refine ⟨c, cs, rfl, ?_, ?_⟩ <;> rintro rfl <;> exact absurd hletter (by decide)

/-- A number without a sign starts with a digit or a point, so it is no name. -/
theorem SpellsUnsigned.exists_cons {d : Decimal} (h : SpellsUnsigned text d) :
    ∃ c cs, text = c :: cs ∧ (c.isDigit = true ∨ c = '.') := by
  cases h with
  | @parts whole pointText fraction powerText power digits point nonempty powered =>
    cases whole with
    | cons c cs => exact ⟨c, _, rfl, .inl (digits c List.mem_cons_self)⟩
    | nil =>
      cases point with
      | none => exact absurd nonempty (by simp)
      | digits _ => exact ⟨'.', _, rfl, .inr rfl⟩

theorem SpellsUnsigned.not_isName {d : Decimal} (h : SpellsUnsigned text d) : ¬IsName text := by
  intro hname
  obtain ⟨c, cs, rfl, hc⟩ := h.exists_cons
  have hletter := isLetter_of_isName hname c List.mem_cons_self
  unfold IsLetter at hletter
  rcases hc with hdigit | rfl
  · have hrange : 48 ≤ c.toNat ∧ c.toNat ≤ 57 := Char.isDigit_iff_toNat.mp hdigit
    omega
  · revert hletter
    decide

theorem bare?_of_spells (h : SpellsBare text x) : bare? text = some x := by
  unfold bare?
  cases h with
  | infinity signed named =>
    rw [Json.splitSign_append signed (start_of_isName (List.mem_cons_of_mem _ named))]
    dsimp only
    rw [if_pos (List.contains_iff_mem.mpr named)]
  | notANumber signed named =>
    have hother : (infinityNames.contains ['n', 'a', 'n']) = false := by decide
    rw [Json.splitSign_append signed (start_of_isName (List.mem_cons.mpr (.inl named)))]
    dsimp only
    rw [named, hother, if_neg (by decide), if_pos rfl]
  | decimal signed spelled =>
    obtain ⟨c, cs, hcons, hc⟩ := spelled.exists_cons
    have hother := spelled.not_isName
    unfold IsName at hother
    rw [List.mem_cons, not_or] at hother
    rw [Json.splitSign_append signed ⟨c, cs, hcons, by rintro rfl; revert hc; decide, by rintro rfl; revert hc; decide⟩]
    dsimp only
    rw [if_neg (fun h => hother.2 (List.contains_iff_mem.mp h)), if_neg hother.1, unsigned?_eq_some_iff.mpr spelled]
    rfl

theorem spells_of_bare? (h : bare? text = some x) : SpellsBare text x := by
  obtain ⟨sign, htext, hsign⟩ := Json.spells_of_splitSign text
  unfold bare? at h
  generalize splitSign text = signed at *
  obtain ⟨negative, body⟩ := signed
  dsimp only at h
  rw [htext]
  split at h
  · next hnamed =>
    cases h
    exact .infinity hsign (List.contains_iff_mem.mp hnamed)
  · split at h
    · next hnamed =>
      cases h
      exact .notANumber hsign hnamed
    · obtain ⟨d, hd, rfl⟩ := Option.map_eq_some_iff.mp h
      exact .decimal hsign (unsigned?_eq_some_iff.mp hd)

theorem bare?_eq_some_iff : bare? text = some x ↔ SpellsBare text x := ⟨spells_of_bare?, bare?_of_spells⟩

end Bare

section Blanks

variable {text : List Char}

theorem dropWhile_plain (h : ∀ c ∈ text, Text.isBlank c = false) : text.dropWhile Text.isBlank = text := by
  cases text with
  | nil => rfl
  | cons c text => exact List.dropWhile_cons_of_neg (by simp [h c List.mem_cons_self])

theorem dropWhile_append_blank (h : ∀ c ∈ text, Text.isBlank c = true) (rest : List Char) :
    (text ++ rest).dropWhile Text.isBlank = rest.dropWhile Text.isBlank := List.dropWhile_append_of_pos h

theorem trim_of_plain {before after : List Char} (front : ∀ c ∈ before, Text.isBlank c = true)
    (back : ∀ c ∈ after, Text.isBlank c = true) (plain : ∀ c ∈ text, Text.isBlank c = false) :
    Text.trim (before ++ (text ++ after)) = text := by
  unfold Text.trim
  rw [dropWhile_append_blank front]
  cases text with
  | nil =>
    have hblank := dropWhile_append_blank back []
    rw [List.append_nil] at hblank
    rw [List.nil_append, hblank]
    rfl
  | cons c text =>
    have hfirst : (c :: text ++ after).dropWhile Text.isBlank = c :: text ++ after :=
      List.dropWhile_cons_of_neg (by simp [plain c List.mem_cons_self])
    rw [hfirst, List.reverse_append, dropWhile_append_blank fun c hc => back c (List.mem_reverse.mp hc),
      dropWhile_plain fun c hc => plain c (List.mem_reverse.mp hc), List.reverse_reverse]

theorem trim_eq_self (plain : ∀ c ∈ text, Text.isBlank c = false) : Text.trim text = text := by
  unfold Text.trim
  rw [dropWhile_plain plain, dropWhile_plain fun c hc => plain c (List.mem_reverse.mp hc), List.reverse_reverse]

theorem exists_trim (text : List Char) : ∃ before after, text = before ++ (Text.trim text ++ after) ∧
    (∀ c ∈ before, Text.isBlank c = true) ∧ ∀ c ∈ after, Text.isBlank c = true := by
  have hblank : ∀ part : List Char, ∀ c ∈ part.takeWhile Text.isBlank, Text.isBlank c = true :=
    fun _ _ => Json.of_mem_takeWhile
  refine ⟨text.takeWhile Text.isBlank, ((text.dropWhile Text.isBlank).reverse.takeWhile Text.isBlank).reverse, ?_,
    hblank text, fun c hc => hblank _ c (List.mem_reverse.mp hc)⟩
  unfold Text.trim
  rw [← List.reverse_append, List.takeWhile_append_dropWhile, List.reverse_reverse, List.takeWhile_append_dropWhile]

end Blanks

section Underscores

variable {text bare : List Char}

theorem Underscored.eq_of_not_mem (h : Underscored text bare) (hplain : '_' ∉ text) : bare = text := by
  cases h with
  | last _ _ => rfl
  | cons _ _ _ => exact absurd (List.mem_append_right _ List.mem_cons_self) hplain

/-- A piece is copied as it is, and something does not end behind an underscore any more. -/
theorem dropUnderscores?_piece {piece : List Char} (afterMark : Bool) (nonempty : piece ≠ []) (plain : '_' ∉ piece)
    (rest : List Char) :
    dropUnderscores? afterMark (piece ++ rest) = (dropUnderscores? false rest).map (piece ++ ·) := by
  induction piece generalizing afterMark with
  | nil => exact absurd rfl nonempty
  | cons c piece ih =>
    have hc : c ≠ '_' := fun heq => plain (heq ▸ List.mem_cons_self)
    have hcons : dropUnderscores? afterMark (c :: (piece ++ rest)) =
        (dropUnderscores? false (piece ++ rest)).map (c :: ·) := by
      cases afterMark <;> rw [dropUnderscores?, if_neg hc]
    rw [List.cons_append, hcons]
    cases piece with
    | nil => rfl
    | cons b piece =>
      rw [ih false (List.cons_ne_nil b piece) fun hb => plain (List.mem_cons_of_mem c hb), Option.map_map]
      rfl

theorem dropUnderscores?_of_underscored (h : Underscored text bare) : dropUnderscores? true text = some bare := by
  induction h with
  | @last piece nonempty plain =>
    have hread := dropUnderscores?_piece true nonempty plain []
    rw [List.append_nil] at hread
    rw [hread, dropUnderscores?, Option.map_some, List.append_nil]
  | @cons piece text bare nonempty plain _ ih =>
    have hmark : dropUnderscores? false ('_' :: text) = dropUnderscores? true text := by
      rw [dropUnderscores?, if_pos rfl, if_neg (by decide)]
    rw [dropUnderscores?_piece true nonempty plain, hmark, ih]
    rfl

theorem Underscored.extend {c : Char} (hc : c ≠ '_') (h : Underscored text bare) :
    Underscored (c :: text) (c :: bare) := by
  have hplain : ∀ {piece : List Char}, '_' ∉ piece → '_' ∉ c :: piece := by
    intro piece hpiece hmem
    exact (List.mem_cons.mp hmem).elim (fun heq => hc heq.symm) hpiece
  cases h with
  | last _ plain => exact .last (List.cons_ne_nil _ _) (hplain plain)
  | cons _ plain more => exact .cons (List.cons_ne_nil _ _) (hplain plain) more

/-- Behind a character a text may also end, or go on with an underscore. -/
theorem underscored_of_dropUnderscores? {afterMark : Bool} (h : dropUnderscores? afterMark text = some bare) :
    Underscored text bare ∨ afterMark = false ∧
      (text = [] ∧ bare = [] ∨ ∃ more, text = '_' :: more ∧ Underscored more bare) := by
  fun_induction dropUnderscores? afterMark text generalizing bare with
  | case1 => cases h
  | case2 =>
    cases h
    exact .inr ⟨rfl, .inl ⟨rfl, rfl⟩⟩
  | case3 => cases h
  | case4 afterMark rest hmark ih =>
    rcases ih h with hrest | ⟨hfalse, -⟩
    · exact .inr ⟨Bool.eq_false_iff.mpr hmark, .inr ⟨rest, rfl, hrest⟩⟩
    · cases hfalse
  | case5 afterMark c rest hc ih =>
    obtain ⟨tail, htail, rfl⟩ := Option.map_eq_some_iff.mp h
    have hplain : '_' ∉ [c] := fun hmem => hc (List.mem_singleton.mp hmem).symm
    rcases ih htail with hrest | ⟨-, ⟨rfl, rfl⟩ | ⟨more, rfl, hmore⟩⟩
    · exact .inl (hrest.extend hc)
    · exact .inl (.last (List.cons_ne_nil c []) hplain)
    · exact .inl (.cons (List.cons_ne_nil c []) hplain hmore)

theorem dropUnderscores?_eq_some_iff : dropUnderscores? true text = some bare ↔ Underscored text bare := by
  constructor
  · intro h
    rcases underscored_of_dropUnderscores? h with hmarked | ⟨hfalse, -⟩
    · exact hmarked
    · cases hfalse
  · exact dropUnderscores?_of_underscored

end Underscores

/-- A text that is a bare number with blanks around it reads as the same number when it is one with underscores too. -/
theorem eq_of_blanks_of_underscores {text bare : List Char} {x y : Binary64} (hblanks : SpellsBare (Text.trim text) y)
    (marked : Underscored text bare) (spelled : SpellsBare bare x) : y = x := by
  obtain ⟨before, after, htext, front, back⟩ := exists_trim text
  have hplain : '_' ∉ text := by
    rw [htext, List.mem_append, List.mem_append]
    rintro (hmem | hmem | hmem)
    · exact absurd (front '_' hmem) (by decide)
    · exact (hblanks.isPlain '_' hmem).2 rfl
    · exact absurd (back '_' hmem) (by decide)
  obtain rfl := marked.eq_of_not_mem hplain
  rw [trim_eq_self fun c hc => (spelled.isPlain c hc).1] at hblanks
  exact Option.some.inj ((bare?_of_spells hblanks).symm.trans (bare?_of_spells spelled))

/-- A text is read as a number exactly when it spells the number. -/
theorem binary64?_eq_some_iff {text : List Char} {x : Binary64} : binary64? text = some x ↔ Spells text x := by
  unfold binary64?
  constructor
  · intro h
    rcases Option.or_eq_some_iff.mp h with htrimmed | ⟨-, hmarked⟩
    · obtain ⟨before, after, htext, front, back⟩ := exists_trim text
      rw [htext]
      exact .blanks front (bare?_eq_some_iff.mp htrimmed) back
    · obtain ⟨bare, hbare, hread⟩ := Option.bind_eq_some_iff.mp hmarked
      exact .underscores (dropUnderscores?_eq_some_iff.mp hbare) (bare?_eq_some_iff.mp hread)
  · rintro (⟨front, spelled, back⟩ | ⟨marked, spelled⟩)
    · rw [trim_of_plain front back fun c hc => (spelled.isPlain c hc).1, bare?_of_spells spelled]
      rfl
    · rw [dropUnderscores?_of_underscored marked, Option.bind_some, bare?_of_spells spelled]
      cases htrimmed : bare? (Text.trim text) with
      | none => rfl
      | some y => rw [eq_of_blanks_of_underscores (spells_of_bare? htrimmed) marked spelled]; rfl

end TurtleGraphics.Numeral
