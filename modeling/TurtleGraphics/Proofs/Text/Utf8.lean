import Mathlib.Tactic
import TurtleGraphics.Text.Utf8

/-! UTF-8. The bytes of a text are decoded as the text, whose lines end as they did if they ended in line feeds. -/

namespace TurtleGraphics.Text

/-- A character lies outside the surrogates. -/
theorem toNat_cases (c : Char) : c.toNat < 0xD800 ∨ 0xE000 ≤ c.toNat ∧ c.toNat < 0x110000 := by
  rcases c.valid with h | ⟨hlow, hhigh⟩
  · exact .inl h
  · exact .inr ⟨hlow, hhigh⟩

namespace Utf8

theorem isTail_iff {b : UInt8} : isTail b = true ↔ 128 ≤ b.toNat ∧ b.toNat < 192 := by
  unfold isTail
  rw [Bool.and_eq_true, decide_eq_true_eq, decide_eq_true_eq, UInt8.le_iff_toNat_le, UInt8.lt_iff_toNat_lt]
  rfl

theorem isSecond_iff {a b : UInt8} :
    isSecond a b = true ↔ (128 ≤ b.toNat ∧ b.toNat < 192) ∧ ¬(a.toNat = 224 ∧ b.toNat < 160) ∧
      ¬(a.toNat = 237 ∧ 160 ≤ b.toNat) ∧ ¬(a.toNat = 240 ∧ b.toNat < 144) ∧ ¬(a.toNat = 244 ∧ 144 ≤ b.toNat) := by
  unfold isSecond
  simp only [Bool.and_eq_true, Bool.not_eq_true', Bool.and_eq_false_iff, isTail_iff, beq_eq_false_iff_ne, ne_eq,
    decide_eq_false_iff_not, UInt8.le_iff_toNat_le, UInt8.lt_iff_toNat_lt, ← UInt8.toNat_inj, not_and_or, and_assoc]
  rfl

theorem toNat_tailByte (n : Nat) : (tailByte n).toNat = 128 + n % 64 := by
  unfold tailByte
  rw [UInt8.toNat_ofNat']
  omega

theorem isTail_tailByte (n : Nat) : isTail (tailByte n) = true := by
  rw [isTail_iff, toNat_tailByte]
  omega

theorem payload_tailByte (n : Nat) : payload (tailByte n) = n % 64 := by
  unfold payload
  rw [toNat_tailByte]
  omega

theorem byte_lt {a b : UInt8} (h : a.toNat < b.toNat) : a < b := UInt8.lt_iff_toNat_lt.mpr h

theorem byte_not_lt {a b : UInt8} (h : b.toNat ≤ a.toNat) : ¬a < b := by
  rw [UInt8.lt_iff_toNat_lt]
  exact Nat.not_lt.mpr h

section Decode

variable (position : Nat) {a b c d : UInt8} (rest : List UInt8)

theorem decodeFrom_one (ha : a.toNat < 128) :
    decodeFrom position (a :: rest) = (decodeFrom (position + 1) rest).map (Char.ofNat a.toNat :: ·) := by
  have h : a < 0x80 := byte_lt ha
  rw [decodeFrom.eq_def]
  dsimp only
  rw [if_pos h]

theorem decodeFrom_two (hlow : 194 ≤ a.toNat) (hhigh : a.toNat < 224) (hb : isTail b = true) :
    decodeFrom position (a :: b :: rest) =
      (decodeFrom (position + 2) rest).map (Char.ofNat (a.toNat % 32 * 64 + payload b) :: ·) := by
  have h1 : ¬a < 0x80 := byte_not_lt (show 128 ≤ a.toNat by omega)
  have h2 : ¬a < 0xC2 := byte_not_lt hlow
  have h3 : a < 0xE0 := byte_lt hhigh
  rw [decodeFrom.eq_def]
  dsimp only
  rw [if_neg h1, if_neg h2, if_pos h3, if_pos hb]

theorem decodeFrom_three (hlow : 224 ≤ a.toNat) (hhigh : a.toNat < 240) (hb : isSecond a b = true)
    (hc : isTail c = true) :
    decodeFrom position (a :: b :: c :: rest) =
      (decodeFrom (position + 3) rest).map
        (Char.ofNat (a.toNat % 16 * 4096 + payload b * 64 + payload c) :: ·) := by
  have h1 : ¬a < 0x80 := byte_not_lt (show 128 ≤ a.toNat by omega)
  have h2 : ¬a < 0xC2 := byte_not_lt (show 194 ≤ a.toNat by omega)
  have h3 : ¬a < 0xE0 := byte_not_lt hlow
  have h4 : a < 0xF0 := byte_lt hhigh
  rw [decodeFrom.eq_def]
  dsimp only
  rw [if_neg h1, if_neg h2, if_neg h3, if_pos h4, hb, hc]
  rfl

theorem decodeFrom_four (hlow : 240 ≤ a.toNat) (hhigh : a.toNat < 245) (hb : isSecond a b = true)
    (hc : isTail c = true) (hd : isTail d = true) :
    decodeFrom position (a :: b :: c :: d :: rest) =
      (decodeFrom (position + 4) rest).map
        (Char.ofNat (a.toNat % 8 * 262144 + payload b * 4096 + payload c * 64 + payload d) :: ·) := by
  have h1 : ¬a < 0x80 := byte_not_lt (show 128 ≤ a.toNat by omega)
  have h2 : ¬a < 0xC2 := byte_not_lt (show 194 ≤ a.toNat by omega)
  have h3 : ¬a < 0xE0 := byte_not_lt (show 224 ≤ a.toNat by omega)
  have h4 : ¬a < 0xF0 := byte_not_lt hlow
  have h5 : a < 0xF5 := byte_lt hhigh
  rw [decodeFrom.eq_def]
  dsimp only
  rw [if_neg h1, if_neg h2, if_neg h3, if_neg h4, if_pos h5, hb, hc, hd]
  rfl

end Decode

theorem toNat_ofNat {n : Nat} (h : n < 256) : (UInt8.ofNat n).toNat = n := by
  rw [UInt8.toNat_ofNat']
  exact Nat.mod_eq_of_lt h

/-- The bytes of a character are decoded as the character, whatever follows. -/
theorem decodeFrom_encodeChar (position : Nat) (c : Char) (rest : List UInt8) :
    ∃ behind, decodeFrom position (encodeChar c ++ rest) = (decodeFrom behind rest).map (c :: ·) := by
  have hc := toNat_cases c
  unfold encodeChar
  dsimp only
  by_cases h1 : c.toNat < 128
  · have ha : (UInt8.ofNat c.toNat).toNat = c.toNat := toNat_ofNat (by omega)
    refine ⟨position + 1, ?_⟩
    rw [if_pos h1, List.singleton_append, decodeFrom_one position rest (by omega), ha, Char.ofNat_toNat]
  · rw [if_neg h1]
    by_cases h2 : c.toNat < 2048
    · have ha : (UInt8.ofNat (192 + c.toNat / 64)).toNat = 192 + c.toNat / 64 := toNat_ofNat (by omega)
      have hcode : (192 + c.toNat / 64) % 32 * 64 + c.toNat % 64 = c.toNat := by omega
      refine ⟨position + 2, ?_⟩
      rw [if_pos h2, List.cons_append, List.singleton_append,
        decodeFrom_two position rest (by omega) (by omega) (isTail_tailByte _), ha, payload_tailByte, hcode,
        Char.ofNat_toNat]
    · rw [if_neg h2]
      by_cases h3 : c.toNat < 65536
      · have ha : (UInt8.ofNat (224 + c.toNat / 4096)).toNat = 224 + c.toNat / 4096 := toNat_ofNat (by omega)
        have hcode : (224 + c.toNat / 4096) % 16 * 4096 + c.toNat / 64 % 64 * 64 + c.toNat % 64 = c.toNat := by omega
        have hsecond : isSecond (UInt8.ofNat (224 + c.toNat / 4096)) (tailByte (c.toNat / 64)) = true := by
          rw [isSecond_iff, ha, toNat_tailByte]
          omega
        refine ⟨position + 3, ?_⟩
        rw [if_pos h3, List.cons_append, List.cons_append, List.singleton_append,
          decodeFrom_three position rest (by omega) (by omega) hsecond (isTail_tailByte _), ha, payload_tailByte,
          payload_tailByte, hcode, Char.ofNat_toNat]
      · have ha : (UInt8.ofNat (240 + c.toNat / 262144)).toNat = 240 + c.toNat / 262144 := toNat_ofNat (by omega)
        have hcode : (240 + c.toNat / 262144) % 8 * 262144 + c.toNat / 4096 % 64 * 4096 + c.toNat / 64 % 64 * 64 +
            c.toNat % 64 = c.toNat := by omega
        have hsecond : isSecond (UInt8.ofNat (240 + c.toNat / 262144)) (tailByte (c.toNat / 4096)) = true := by
          rw [isSecond_iff, ha, toNat_tailByte]
          omega
        refine ⟨position + 4, ?_⟩
        rw [if_neg h3, List.cons_append, List.cons_append, List.cons_append, List.singleton_append,
          decodeFrom_four position rest (by omega) (by omega) hsecond (isTail_tailByte _) (isTail_tailByte _), ha,
          payload_tailByte, payload_tailByte, payload_tailByte, hcode, Char.ofNat_toNat]

theorem decodeFrom_encode (position : Nat) (text : List Char) : decodeFrom position (encode text) = .ok text := by
  induction text generalizing position with
  | nil =>
    rw [encode, List.flatMap_nil, decodeFrom]
  | cons c text ih =>
    obtain ⟨behind, hread⟩ := decodeFrom_encodeChar position c (encode text)
    have hsplit : encode (c :: text) = encodeChar c ++ encode text := List.flatMap_cons
    rw [hsplit, hread, ih behind]
    rfl

theorem decode_encode (text : List Char) : decode (encode text) = .ok text := decodeFrom_encode 0 text

section Encode

variable {a b c d : UInt8}

theorem toNat_char {n : Nat} (h : n.isValidChar) : (Char.ofNat n).toNat = n := by
  unfold Char.ofNat
  rw [dif_pos h]
  rfl

theorem tailByte_eq {b : UInt8} {n : Nat} (hb : isTail b = true) (h : n % 64 = payload b) : tailByte n = b := by
  rw [isTail_iff] at hb
  unfold payload at h
  rw [← UInt8.toNat_inj, toNat_tailByte]
  omega

theorem leadByte_eq (a : UInt8) {n : Nat} (h : n = a.toNat) : UInt8.ofNat n = a := by
  rw [h, UInt8.ofNat_toNat]

theorem encodeChar_one (ha : a.toNat < 128) : encodeChar (Char.ofNat a.toNat) = [a] := by
  have hcode : (Char.ofNat a.toNat).toNat = a.toNat := toNat_char (.inl (by omega))
  unfold encodeChar
  dsimp only
  rw [hcode, if_pos ha, UInt8.ofNat_toNat]

theorem encodeChar_two (hlow : 194 ≤ a.toNat) (hhigh : a.toNat < 224) (hb : isTail b = true) :
    encodeChar (Char.ofNat (a.toNat % 32 * 64 + payload b)) = [a, b] := by
  have hp : payload b < 64 := Nat.mod_lt _ (by decide)
  have hcode := toNat_char (.inl (by omega) : (a.toNat % 32 * 64 + payload b).isValidChar)
  unfold encodeChar
  dsimp only
  rw [hcode, if_neg (by omega), if_pos (by omega), leadByte_eq a (by omega), tailByte_eq hb (by omega)]

theorem encodeChar_three (hlow : 224 ≤ a.toNat) (hhigh : a.toNat < 240) (hb : isSecond a b = true)
    (hc : isTail c = true) :
    encodeChar (Char.ofNat (a.toNat % 16 * 4096 + payload b * 64 + payload c)) = [a, b, c] := by
  obtain ⟨hb, hshort, hsurrogate, -, -⟩ := isSecond_iff.mp hb
  have hpb : payload b = b.toNat % 64 := rfl
  have hpc : payload c < 64 := Nat.mod_lt _ (by decide)
  have hcode := toNat_char (show (a.toNat % 16 * 4096 + payload b * 64 + payload c).isValidChar by
    unfold Nat.isValidChar
    omega)
  unfold encodeChar
  dsimp only
  rw [hcode, if_neg (by omega), if_neg (by omega), if_pos (by omega), leadByte_eq a (by omega),
    tailByte_eq (isTail_iff.mpr hb) (by omega), tailByte_eq hc (by omega)]

theorem encodeChar_four (hlow : 240 ≤ a.toNat) (hhigh : a.toNat < 245) (hb : isSecond a b = true)
    (hc : isTail c = true) (hd : isTail d = true) :
    encodeChar (Char.ofNat (a.toNat % 8 * 262144 + payload b * 4096 + payload c * 64 + payload d)) = [a, b, c, d] := by
  obtain ⟨hb, -, -, hshort, hlast⟩ := isSecond_iff.mp hb
  have hpb : payload b = b.toNat % 64 := rfl
  have hpc : payload c < 64 := Nat.mod_lt _ (by decide)
  have hpd : payload d < 64 := Nat.mod_lt _ (by decide)
  have hcode := toNat_char
    (show (a.toNat % 8 * 262144 + payload b * 4096 + payload c * 64 + payload d).isValidChar by
      unfold Nat.isValidChar
      omega)
  unfold encodeChar
  dsimp only
  rw [hcode, if_neg (by omega), if_neg (by omega), if_neg (by omega), leadByte_eq a (by omega),
    tailByte_eq (isTail_iff.mpr hb) (by omega), tailByte_eq hc (by omega), tailByte_eq hd (by omega)]

end Encode

theorem encode_of_map {front rest : List UInt8} {position : Nat} {c : Char} {text : List Char}
    (hc : encodeChar c = front) (ih : ∀ {text}, decodeFrom position rest = .ok text → rest = encode text)
    (h : (decodeFrom position rest).map (c :: ·) = .ok text) : front ++ rest = encode text := by
  cases hread : decodeFrom position rest with
  | error defect =>
    rw [hread] at h
    cases h
  | ok more =>
    rw [hread] at h
    cases h
    have hsplit : encode (c :: more) = encodeChar c ++ encode more := List.flatMap_cons
    rw [hsplit, hc, ih hread]

theorem toNat_lt {a b : UInt8} (h : a < b) : a.toNat < b.toNat := UInt8.lt_iff_toNat_lt.mp h

theorem le_toNat {a b : UInt8} (h : ¬a < b) : b.toNat ≤ a.toNat := Nat.not_lt.mp fun hlt => h (byte_lt hlt)

theorem encode_of_decodeFrom {position : Nat} {bytes : List UInt8} {text : List Char}
    (h : decodeFrom position bytes = .ok text) : bytes = encode text := by
  fun_induction decodeFrom position bytes generalizing text with
  | case1 =>
    cases h
    rfl
  | case2 position a rest hlow ih => exact encode_of_map (encodeChar_one (toNat_lt hlow)) ih h
  | case5 position a _ hlow hhigh b rest hb ih =>
    exact encode_of_map (encodeChar_two (le_toNat hlow) (toNat_lt hhigh) hb) ih h
  | case12 position a _ _ hlow hhigh b c rest hb hc code =>
    rename_i ih
    rw [Bool.not_eq_true, Bool.not_eq_false'] at hb hc
    exact encode_of_map (encodeChar_three (le_toNat hlow) (toNat_lt hhigh) hb hc) ih h
  | case22 position a _ _ _ hlow hhigh b c d rest hb hc hd code =>
    rename_i ih
    rw [Bool.not_eq_true, Bool.not_eq_false'] at hb hc hd
    exact encode_of_map (encodeChar_four (le_toNat hlow) (toNat_lt hhigh) hb hc hd) ih h
  | _ => cases h

/-- Bytes are decoded as a text exactly when they are its bytes. -/
theorem decode_eq_ok_iff {bytes : List UInt8} {text : List Char} : decode bytes = .ok text ↔ bytes = encode text := by
  constructor
  · exact encode_of_decodeFrom
  · rintro rfl
    exact decode_encode text

end Utf8

theorem unifyLineEnds_of_not_mem {text : List Char} (h : '\r' ∉ text) : unifyLineEnds text = text := by
  fun_induction unifyLineEnds text with
  | case1 => rfl
  | case2 => exact absurd List.mem_cons_self h
  | case3 => exact absurd List.mem_cons_self h
  | case4 c rest _ _ ih => rw [ih fun hr => h (List.mem_cons_of_mem c hr)]

end TurtleGraphics.Text
