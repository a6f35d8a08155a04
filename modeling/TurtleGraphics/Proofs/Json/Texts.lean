import Mathlib.Tactic
import TurtleGraphics.Json.Writer
import TurtleGraphics.Json.Reader
import TurtleGraphics.Proofs.Text.Utf8

/-! Texts in JSON text. Characters past `U+FFFF` are written as two escapes, which are joined when they are read, so
every text is read back as it was written. -/

namespace TurtleGraphics.Json

/-- The code points that the escapes of a code point are read as, one by one. -/
def spelled : CodePoint → List CodePoint
  | .char c =>
    if c.toNat < 0x10000 then [.char c]
    else [.surrogate (0xD800 + (c.toNat - 0x10000) / 0x400), .surrogate (0xDC00 + (c.toNat - 0x10000) % 0x400)]
  | .surrogate unit => [.surrogate unit]

theorem spelled_small {c : Char} (h : c.toNat < 0x10000) : spelled (.char c) = [.char c] := if_pos h

theorem spelled_large {c : Char} (h : ¬c.toNat < 0x10000) :
    spelled (.char c) = [.surrogate (0xD800 + (c.toNat - 0x10000) / 0x400),
      .surrogate (0xDC00 + (c.toNat - 0x10000) % 0x400)] := if_neg h

def InRange (points : List CodePoint) : Prop :=
  ∀ unit, CodePoint.surrogate unit ∈ points → 0xD800 ≤ unit ∧ unit < 0xE000

theorem InRange.tail {p : CodePoint} {points : List CodePoint} (h : InRange (p :: points)) : InRange points :=
  fun unit hu => h unit (List.mem_cons_of_mem p hu)

theorem isHighSurrogate_iff {unit : Nat} : isHighSurrogate unit = true ↔ 0xD800 ≤ unit ∧ unit < 0xDC00 := by
  simp [isHighSurrogate]

theorem isLowSurrogate_iff {unit : Nat} : isLowSurrogate unit = true ↔ 0xDC00 ≤ unit ∧ unit < 0xE000 := by
  simp [isLowSurrogate]

theorem unitPoint_char (c : Char) : unitPoint c.toNat = .char c := by
  have h : ¬(isHighSurrogate c.toNat || isLowSurrogate c.toNat) = true := by
    rw [Bool.or_eq_true, isHighSurrogate_iff, isLowSurrogate_iff]
    have := Text.toNat_cases c
    omega
  unfold unitPoint
  rw [if_neg h, Char.ofNat_toNat]

theorem unitPoint_surrogate {unit : Nat} (h : 0xD800 ≤ unit ∧ unit < 0xE000) : unitPoint unit = .surrogate unit := by
  have hs : (isHighSurrogate unit || isLowSurrogate unit) = true := by
    rw [Bool.or_eq_true, isHighSurrogate_iff, isLowSurrogate_iff]
    omega
  unfold unitPoint
  rw [if_pos hs]

theorem pairChar_toNat {c : Char} (h : 0x10000 ≤ c.toNat) :
    pairChar (0xD800 + (c.toNat - 0x10000) / 0x400) (0xDC00 + (c.toNat - 0x10000) % 0x400) = c := by
  have hcode : 0x10000 + (0xD800 + (c.toNat - 0x10000) / 0x400 - 0xD800) * 0x400 +
      (0xDC00 + (c.toNat - 0x10000) % 0x400 - 0xDC00) = c.toNat := by omega
  unfold pairChar
  rw [hcode, Char.ofNat_toNat]

theorem readPoints_quote (whole rest : List Char) : readPoints whole ('"' :: rest) = .ok ([], rest) := by
  rw [readPoints.eq_def]
  rfl

theorem readPoints_u (whole : List Char) (a b c d : Char) (more : List Char) :
    readPoints whole ('\\' :: 'u' :: a :: b :: c :: d :: more) =
      match escapedUnit? a b c d more with
      | some unit => (readPoints whole more).map fun p => (unitPoint unit :: p.1, p.2)
      | none => stop .invalidUnicodeEscape (more.length + 5) := by
  rw [readPoints.eq_def]
  rfl

theorem readPoints_simple {e c : Char} (he : simpleEscape? e = some c) (hu : e ≠ 'u') (whole rest : List Char) :
    readPoints whole ('\\' :: e :: rest) = (readPoints whole rest).map fun p => (.char c :: p.1, p.2) := by
  rw [readPoints.eq_def]
  dsimp only
  rw [if_neg (by decide), if_pos rfl, if_neg hu, he]

theorem readPoints_plain {c : Char} (hquote : c ≠ '"') (hback : c ≠ '\\') (hc : 32 ≤ c.toNat)
    (whole rest : List Char) :
    readPoints whole (c :: rest) = (readPoints whole rest).map fun p => (.char c :: p.1, p.2) := by
  rw [readPoints.eq_def]
  dsimp only
  rw [if_neg hquote, if_neg hback, if_neg (Nat.not_lt.mpr hc)]

/-- A letter that is written for a character is read as it. -/
theorem simpleEscape?_letter {c letter : Char} (h : escapeLetter? c = some letter) :
    simpleEscape? letter = some c ∧ letter ≠ 'u' ∧ c.toNat < 128 := by
  unfold escapeLetter? at h
  split at h
  · next hc =>
    cases h
    rcases hc with rfl | rfl <;> decide
  · split at h
    · next hc => cases h; subst hc; decide
    · split at h
      · next hc => cases h; subst hc; decide
      · split at h
        · next hc => cases h; subst hc; decide
        · split at h
          · next hc => cases h; subst hc; decide
          · split at h
            · next hc => cases h; subst hc; decide
            · cases h

theorem ne_of_escapeLetter?_none {c : Char} (h : escapeLetter? c = none) : c ≠ '"' ∧ c ≠ '\\' := by
  unfold escapeLetter? at h
  split at h
  · cases h
  · next hc => exact not_or.mp hc

section Points

variable {tail : List Char} (ht : tail ≠ [])

include ht

theorem readPoints_unit {unit : Nat} (hu : unit < 0x10000) (whole : List Char) :
    readPoints whole (unitEscape unit ++ tail) =
      (readPoints whole tail).map fun p => (unitPoint unit :: p.1, p.2) := by
  have hhex : Text.readHex? 0 (Text.hex 4 unit) = some unit := by
    rw [Text.readHex?_hex, Nat.mul_zero, Nat.zero_add, Nat.mod_eq_of_lt hu]
  have hempty : tail.isEmpty = false := List.isEmpty_eq_false_iff.mpr ht
  obtain ⟨a, b, c, d, habcd⟩ : ∃ a b c d, Text.hex 4 unit = [a, b, c, d] := ⟨_, _, _, _, rfl⟩
  have hescaped : escapedUnit? a b c d tail = some unit := by
    unfold escapedUnit?
    rw [hempty, ← habcd, hhex]
    rfl
  have htext : unitEscape unit ++ tail = '\\' :: 'u' :: a :: b :: c :: d :: tail := by
    unfold unitEscape
    rw [habcd]
    rfl
  rw [htext, readPoints_u, hescaped]

theorem readPoints_escapeChar (c : Char) (whole : List Char) :
    readPoints whole (escapeChar c ++ tail) =
      (readPoints whole tail).map fun p => (spelled (.char c) ++ p.1, p.2) := by
  unfold escapeChar
  cases hletter : escapeLetter? c with
  | some letter =>
    obtain ⟨hsimple, hu, hsmall⟩ := simpleEscape?_letter hletter
    rw [spelled_small (by omega)]
    exact readPoints_simple hsimple hu whole tail
  | none =>
    dsimp only
    by_cases hplain : 32 ≤ c.toNat ∧ c.toNat < 127
    · obtain ⟨hquote, hback⟩ := ne_of_escapeLetter?_none hletter
      rw [if_pos hplain, spelled_small (by omega)]
      exact readPoints_plain hquote hback hplain.1 whole tail
    · rw [if_neg hplain]
      by_cases hsmall : c.toNat < 0x10000
      · rw [if_pos hsmall, spelled_small hsmall, readPoints_unit ht hsmall, unitPoint_char]
        rfl
      · have hc := Text.toNat_cases c
        have hne : unitEscape (0xDC00 + (c.toNat - 0x10000) % 0x400) ++ tail ≠ [] :=
          List.append_ne_nil_of_right_ne_nil _ ht
        rw [if_neg hsmall, List.append_assoc, readPoints_unit hne (by omega), readPoints_unit ht (by omega),
          unitPoint_surrogate (by omega), unitPoint_surrogate (by omega), spelled_large hsmall]
        cases readPoints whole tail <;> rfl

/-- The escapes of a code point are read as what they spell, whatever follows. -/
theorem readPoints_escapePoint {p : CodePoint} {points : List CodePoint} (hp : InRange (p :: points))
    (whole : List Char) :
    readPoints whole (escapePoint p ++ tail) = (readPoints whole tail).map fun q => (spelled p ++ q.1, q.2) := by
  cases p with
  | char c => exact readPoints_escapeChar ht c whole
  | surrogate unit =>
    have hu := hp unit List.mem_cons_self
    have hread := readPoints_unit ht (by omega : unit < 0x10000) whole
    rw [unitPoint_surrogate hu] at hread
    exact hread

end Points

theorem readPoints_escaped {points : List CodePoint} (hp : InRange points) (whole rest : List Char) :
    readPoints whole (points.flatMap escapePoint ++ '"' :: rest) = .ok (points.flatMap spelled, rest) := by
  induction points with
  | nil => exact readPoints_quote whole rest
  | cons p points ih =>
    have hne : points.flatMap escapePoint ++ '"' :: rest ≠ [] :=
      List.append_ne_nil_of_right_ne_nil _ (List.cons_ne_nil _ _)
    rw [List.flatMap_cons, List.append_assoc, readPoints_escapePoint hne hp, ih hp.tail, List.flatMap_cons]
    rfl

theorem joinPairs_surrogate {unit : Nat} {points : List CodePoint}
    (h : ∀ low rest, points = .surrogate low :: rest → (isHighSurrogate unit && isLowSurrogate low) = false) :
    joinPairs (.surrogate unit :: points) = .surrogate unit :: joinPairs points := by
  cases points with
  | nil => simp only [joinPairs]
  | cons p rest =>
    cases p with
    | char c => simp only [joinPairs]
    | surrogate low =>
      rw [joinPairs, h low rest rfl]
      rfl

theorem joinPairs_spelled_char (c : Char) (points : List CodePoint) :
    joinPairs (spelled (.char c) ++ points) = .char c :: joinPairs points := by
  by_cases hsmall : c.toNat < 0x10000
  · rw [spelled_small hsmall, List.singleton_append, joinPairs]
  · have hc := Text.toNat_cases c
    have hhigh : isHighSurrogate (0xD800 + (c.toNat - 0x10000) / 0x400) = true := isHighSurrogate_iff.mpr (by omega)
    have hlow : isLowSurrogate (0xDC00 + (c.toNat - 0x10000) % 0x400) = true := isLowSurrogate_iff.mpr (by omega)
    rw [spelled_large hsmall, List.cons_append, List.singleton_append, joinPairs, hhigh, hlow, if_pos (by decide),
      pairChar_toNat (Nat.not_lt.mp hsmall)]

theorem not_isLowSurrogate_of_spelled {c : Char} {points more : List CodePoint} {low : Nat}
    (h : (CodePoint.char c :: points).flatMap spelled = .surrogate low :: more) : isLowSurrogate low = false := by
  rw [List.flatMap_cons] at h
  by_cases hsmall : c.toNat < 0x10000
  · rw [spelled_small hsmall] at h
    cases h
  · have hc := Text.toNat_cases c
    rw [spelled_large hsmall] at h
    cases h
    rw [Bool.eq_false_iff, Ne, isLowSurrogate_iff]
    omega

/-- Spelling characters as pairs changes nothing that joining pairs does not undo. -/
theorem joinPairs_spelled (points : List CodePoint) : joinPairs (points.flatMap spelled) = joinPairs points := by
  induction points using joinPairs.induct with
  | case1 => rfl
  | case2 c rest ih => rw [List.flatMap_cons, joinPairs_spelled_char, ih, joinPairs]
  | case3 high low rest h ih =>
    have hflat : (CodePoint.surrogate high :: .surrogate low :: rest).flatMap spelled =
        .surrogate high :: .surrogate low :: rest.flatMap spelled := rfl
    rw [hflat, joinPairs, joinPairs, if_pos h, if_pos h, ih]
  | case4 high low rest h ih =>
    have hflat : (CodePoint.surrogate high :: .surrogate low :: rest).flatMap spelled =
        .surrogate high :: .surrogate low :: rest.flatMap spelled := rfl
    have hrest : (CodePoint.surrogate low :: rest).flatMap spelled = .surrogate low :: rest.flatMap spelled := rfl
    rw [hrest] at ih
    rw [hflat, joinPairs, joinPairs, if_neg h, if_neg h, ih]
  | case5 unit rest h ih =>
    -- A character behind the surrogate is spelled as itself or as a pair, which starts with a high surrogate.
    have hlow : ∀ low more, rest.flatMap spelled = .surrogate low :: more →
        (isHighSurrogate unit && isLowSurrogate low) = false := by
      intro low more heq
      cases rest with
      | nil => cases heq
      | cons p rest =>
        cases p with
        | surrogate low => exact (h low rest rfl).elim
        | char c => rw [not_isLowSurrogate_of_spelled heq, Bool.and_false]
    have hflat : (CodePoint.surrogate unit :: rest).flatMap spelled = .surrogate unit :: rest.flatMap spelled := rfl
    rw [hflat, joinPairs_surrogate hlow, ih, joinPairs_surrogate fun low more heq => (h low more heq).elim]

/-- A text that reading can give: none of its surrogates has its other half behind it, and if all of its code points
are characters it is known as a whole. -/
def IsRead : LooseText → Prop
  | .whole _ => True
  | .broken points => InRange points ∧ joinPairs points = points ∧ LooseText.ofPoints points = .broken points

theorem mapM_char? (s : List Char) : (s.map CodePoint.char).mapM CodePoint.char? = some s := by
  induction s with
  | nil => rfl
  | cons c s ih =>
    rw [List.map_cons, List.mapM_cons, ih]
    rfl

theorem ofPoints_chars (s : String) : LooseText.ofPoints (s.toList.map .char) = .whole s := by
  unfold LooseText.ofPoints
  rw [mapM_char?]
  dsimp only
  rw [String.ofList_toList]

theorem joinPairs_chars (s : List Char) : joinPairs (s.map .char) = s.map .char := by
  induction s with
  | nil => rfl
  | cons c s ih => rw [List.map_cons, joinPairs, ih]

theorem readString_escaped {points : List CodePoint} (hp : InRange points) (rest : List Char) :
    readString (points.flatMap escapePoint ++ '"' :: rest) = .ok (.ofPoints (joinPairs points), rest) := by
  unfold readString
  rw [readPoints_escaped hp, ← joinPairs_spelled points]
  rfl

/-- A text is read back from its escapes between quotes. -/
theorem readString_renderLoose {s : LooseText} (hs : IsRead s) :
    ∃ body, renderLoose s = '"' :: body ∧ ∀ rest, readString (body ++ rest) = .ok (s, rest) := by
  cases s with
  | whole s =>
    have hpoints : InRange (s.toList.map .char) := by
      intro unit hu
      simp at hu
    refine ⟨(s.toList.map CodePoint.char).flatMap escapePoint ++ ['"'], ?_, ?_⟩
    · rw [List.flatMap_map]
      rfl
    · intro rest
      rw [List.append_assoc, List.singleton_append, readString_escaped hpoints, joinPairs_chars, ofPoints_chars]
  | broken points =>
    obtain ⟨hpoints, hpairs, hof⟩ := hs
    refine ⟨points.flatMap escapePoint ++ ['"'], rfl, ?_⟩
    intro rest
    rw [List.append_assoc, List.singleton_append, readString_escaped hpoints, hpairs, hof]

end TurtleGraphics.Json
