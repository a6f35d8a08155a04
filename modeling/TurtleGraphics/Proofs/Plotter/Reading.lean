import Mathlib.Data.List.TakeWhile
import Mathlib.Tactic
import TurtleGraphics.Plotter.Reader
import TurtleGraphics.Proofs.Decimal.Characters

/-! Plotter programs read back. A line whose parts hold none of the characters that separate them is read as it was
written, and so is a program of such lines. -/

namespace TurtleGraphics.Plotter

/-- A part of an instruction: no blank, no start of a remark and no line feed stands in it. -/
structure IsWord (text : List Char) : Prop where
  blank : ' ' ∉ text
  remark : ';' ∉ text
  lineFeed : '\n' ∉ text

namespace IsWord

variable {text first second : List Char}

theorem append (h : IsWord first) (h' : IsWord second) : IsWord (first ++ second) := by
  refine ⟨?_, ?_, ?_⟩
  · rw [List.mem_append, not_or]
    exact ⟨h.blank, h'.blank⟩
  · rw [List.mem_append, not_or]
    exact ⟨h.remark, h'.remark⟩
  · rw [List.mem_append, not_or]
    exact ⟨h.lineFeed, h'.lineFeed⟩

theorem cons {c : Char} (hc : IsWord [c]) (h : IsWord first) : IsWord (c :: first) := hc.append h

theorem of_isNumeric (h : IsNumeric text) : IsWord text := ⟨h.not_mem rfl, h.not_mem rfl, h.not_mem rfl⟩

theorem int (n : Int) : IsWord (Number.intText n) := .of_isNumeric (.int n)

theorem hundredths (x : Binary64) : IsWord x.hundredthsText := .of_isNumeric (.hundredthsText x)

theorem shortest (x : Binary64) : IsWord x.shortestText := .of_isNumeric (.shortestText x)

end IsWord

theorem readInt?_digits {text : List Char} (hne : text ≠ []) (h : ∀ c ∈ text, c.isDigit = true) :
    readInt? text = some (Nat.ofDigitChars 10 text 0 : Int) := by
  cases text with
  | nil => exact absurd rfl hne
  | cons c rest =>
    have hc : c ≠ '-' := by
      rintro rfl
      exact absurd (h _ List.mem_cons_self) (by decide)
    unfold readInt?
    split
    · next heq => exact absurd (List.cons.inj heq).1 hc
    · rw [if_pos]
      simp only [List.isEmpty_cons, Bool.not_false, Bool.true_and, List.all_eq_true]
      exact h

theorem readInt?_intText (n : Int) : readInt? (Number.intText n) = some n := by
  have hdigits : ∀ c ∈ Nat.toDigits 10 n.natAbs, c.isDigit = true :=
    fun _ hc => Nat.isDigit_of_mem_toDigits (by decide) (by decide) hc
  have hne : Nat.toDigits 10 n.natAbs ≠ [] := Nat.toDigits_ne_nil
  unfold Number.intText Binary64.signText
  by_cases h : n < 0
  · rw [decide_eq_true h, if_pos rfl]
    change (if !(Nat.toDigits 10 n.natAbs).isEmpty && (Nat.toDigits 10 n.natAbs).all Char.isDigit then
      some (-(Nat.ofDigitChars 10 (Nat.toDigits 10 n.natAbs) 0 : Int)) else none) = some n
    rw [if_pos, Nat.ofDigitChars_ten_toDigits]
    · congr 1
      omega
    · simpa [hne] using hdigits
  · rw [decide_eq_false h, if_neg (by decide), List.nil_append, readInt?_digits hne hdigits,
      Nat.ofDigitChars_ten_toDigits]
    congr 1
    omega

namespace Instruction

def IsReadable : Instruction → Prop
  | .travel x y _ | .draw x y _ => IsWord x ∧ IsWord y
  | _ => True

theorem renderMotion_eq (code x y : List Char) (speed : Int) :
    renderMotion code x y speed =
      code ++ ' ' :: ('X' :: x ++ ' ' :: ('Y' :: y ++ ' ' :: ('F' :: Number.intText speed))) := by
  simp [renderMotion]

theorem pieces_renderMotion {code x y : List Char} (hcode : IsWord code) (hx : IsWord x) (hy : IsWord y)
    (speed : Int) :
    Text.pieces ' ' (renderMotion code x y speed) =
      [code, 'X' :: x, 'Y' :: y, 'F' :: Number.intText speed] := by
  have hX : ' ' ∉ 'X' :: x := by simp [hx.blank]
  have hY : ' ' ∉ 'Y' :: y := by simp [hy.blank]
  have hF : ' ' ∉ 'F' :: Number.intText speed := by simp [(IsWord.int speed).blank]
  rw [renderMotion_eq, Text.pieces_append_cons hcode.blank, Text.pieces_append_cons hX, Text.pieces_append_cons hY,
    Text.pieces_of_not_mem hF]

theorem not_mem_renderMotion {code x y : List Char} (hcode : IsWord code) (hx : IsWord x) (hy : IsWord y)
    (speed : Int) : ';' ∉ renderMotion code x y speed ∧ '\n' ∉ renderMotion code x y speed := by
  have hspeed := IsWord.int speed
  rw [renderMotion_eq]
  simp [hcode.remark, hcode.lineFeed, hx.remark, hx.lineFeed, hy.remark, hy.lineFeed, hspeed.remark, hspeed.lineFeed]

theorem render_travel (x y : List Char) (speed : Int) :
    render (.travel x y speed) = renderMotion "G0".toList x y speed := rfl

theorem render_draw (x y : List Char) (speed : Int) :
    render (.draw x y speed) = renderMotion "G1".toList x y speed := rfl

theorem render_servo (angle : Int) :
    render (.servo angle) = "M280".toList ++ ' ' :: ("P0".toList ++ ' ' :: ('S' :: Number.intText angle)) := rfl

theorem pieces_servo (angle : Int) :
    Text.pieces ' ' (render (.servo angle)) = ["M280".toList, "P0".toList, 'S' :: Number.intText angle] := by
  have hS : ' ' ∉ 'S' :: Number.intText angle := by simp [(IsWord.int angle).blank]
  have hcode : ' ' ∉ "M280".toList := by decide
  have hchannel : ' ' ∉ "P0".toList := by decide
  rw [render_servo, Text.pieces_append_cons hcode, Text.pieces_append_cons hchannel, Text.pieces_of_not_mem hS]

theorem read?_render {i : Instruction} (h : i.IsReadable) : read? i.render = some i := by
  unfold read?
  cases i with
  | millimetres => rfl
  | absolute => rfl
  | home => rfl
  | motorsOff => rfl
  | servo angle =>
    rw [pieces_servo]
    simp only [ofWords?, and_self, ↓reduceIte, readInt?_intText, Option.map_some]
  | travel x y speed =>
    have hcode : IsWord "G0".toList := ⟨by decide, by decide, by decide⟩
    rw [render_travel, pieces_renderMotion hcode h.1 h.2]
    simp only [ofWords?, ↓reduceIte, readInt?_intText, Option.map_some]
  | draw x y speed =>
    have hcode : IsWord "G1".toList := ⟨by decide, by decide, by decide⟩
    have hne : "G1".toList ≠ "G0".toList := by decide
    rw [render_draw, pieces_renderMotion hcode h.1 h.2]
    simp only [ofWords?, hne, ↓reduceIte, readInt?_intText, Option.map_some]

theorem render_ne_nil (i : Instruction) : i.render ≠ [] := by
  cases i with
  | servo angle => exact List.cons_ne_nil _ _
  | travel x y speed => exact List.cons_ne_nil _ _
  | draw x y speed => exact List.cons_ne_nil _ _
  | _ => decide

theorem not_mem_render {i : Instruction} (h : i.IsReadable) : ';' ∉ i.render ∧ '\n' ∉ i.render := by
  cases i with
  | millimetres => exact ⟨by decide, by decide⟩
  | absolute => exact ⟨by decide, by decide⟩
  | home => exact ⟨by decide, by decide⟩
  | motorsOff => exact ⟨by decide, by decide⟩
  | servo angle =>
    have hangle := IsWord.int angle
    have hcode : IsWord "M280".toList := ⟨by decide, by decide, by decide⟩
    have hchannel : IsWord "P0".toList := ⟨by decide, by decide, by decide⟩
    rw [render_servo]
    generalize "M280".toList = code at hcode
    generalize "P0".toList = channel at hchannel
    simp [hcode.remark, hcode.lineFeed, hchannel.remark, hchannel.lineFeed, hangle.remark, hangle.lineFeed]
  | travel x y speed =>
    have hcode : IsWord "G0".toList := ⟨by decide, by decide, by decide⟩
    rw [render_travel]
    exact not_mem_renderMotion hcode h.1 h.2 speed
  | draw x y speed =>
    have hcode : IsWord "G1".toList := ⟨by decide, by decide, by decide⟩
    rw [render_draw]
    exact not_mem_renderMotion hcode h.1 h.2 speed

end Instruction

namespace Line

/-- A remark of one line, or an instruction that can be read, with such a remark or without one. -/
def IsReadable : Line → Prop
  | .remark text => '\n' ∉ text
  | .step i note => i.IsReadable ∧ ∀ text ∈ note, '\n' ∉ text

theorem ne_remark {code : List Char} (h : ';' ∉ code) : ∀ c ∈ code, decide (c ≠ ';') = true := by
  intro c hc
  exact decide_eq_true (ne_of_mem_of_not_mem hc h)

theorem splitRemark_append {code : List Char} (h : ';' ∉ code) (note : List Char) :
    splitRemark (code ++ ';' :: note) = (code, ';' :: note) := by
  unfold splitRemark
  rw [List.takeWhile_append_of_pos (ne_remark h), List.dropWhile_append_of_pos (ne_remark h)]
  simp

theorem splitRemark_of_not_mem {code : List Char} (h : ';' ∉ code) : splitRemark code = (code, []) := by
  unfold splitRemark
  rw [List.takeWhile_eq_self_iff.mpr (ne_remark h), List.dropWhile_eq_nil_iff.mpr (ne_remark h)]

theorem read?_of_split {text code note : List Char} (hsplit : splitRemark text = (code, note)) (hne : code ≠ []) :
    read? text =
      if note = [] then (Instruction.read? code).map (.step · none)
      else (Instruction.read? code.dropLast).map (.step · (some (remarkText note))) := by
  unfold read?
  rw [hsplit]
  cases code with
  | nil => exact absurd rfl hne
  | cons c code =>
    cases note with
    | nil => rfl
    | cons d note => rfl

/-- An instruction is read up to the remark, whatever the remark is. -/
theorem read?_noted {i : Instruction} (h : i.IsReadable) (text : List Char) :
    read? (i.render ++ ' ' :: ';' :: text) = some (.step i (some (text.drop 1))) := by
  obtain ⟨hremark, -⟩ := Instruction.not_mem_render h
  have hcode : ';' ∉ i.render ++ [' '] := by simp [hremark]
  have hsplit := splitRemark_append hcode text
  rw [List.append_assoc, List.singleton_append] at hsplit
  rw [read?_of_split hsplit (by simp), if_neg (List.cons_ne_nil _ _), List.dropLast_concat, Instruction.read?_render h]
  rfl

theorem read?_render {line : Line} (h : line.IsReadable) : read? line.render = some line := by
  cases line with
  | remark text => rfl
  | step i note =>
    obtain ⟨hi, -⟩ := h
    cases note with
    | none =>
      obtain ⟨hremark, -⟩ := Instruction.not_mem_render hi
      have hsplit : splitRemark (render (.step i none)) = (i.render, []) := splitRemark_of_not_mem hremark
      rw [read?_of_split hsplit i.render_ne_nil, if_pos rfl, Instruction.read?_render hi]
      rfl
    | some text => exact read?_noted hi (' ' :: text)

theorem lineFeed_not_mem_render {line : Line} (h : line.IsReadable) : '\n' ∉ line.render := by
  cases line with
  | remark text =>
    have htext : '\n' ∉ text := h
    simp [render, renderRemark, htext]
  | step i note =>
    obtain ⟨hi, hnote⟩ := h
    obtain ⟨-, hcode⟩ := Instruction.not_mem_render hi
    cases note with
    | none => exact hcode
    | some text =>
      have htext : '\n' ∉ text := hnote text rfl
      simp [render, renderRemark, hcode, htext]

end Line

namespace Program

theorem mapM_read?_render {p : Program} (h : ∀ line ∈ p, line.IsReadable) :
    (p.map Line.render).mapM Line.read? = some p := by
  induction p with
  | nil => rfl
  | cons line p ih =>
    have hline := Line.read?_render (h line List.mem_cons_self)
    have hrest := ih fun l hl => h l (List.mem_cons_of_mem line hl)
    rw [List.map_cons, List.mapM_cons, hline, hrest]
    rfl

/-- What is written for a program has the lines of each of its own. -/
theorem pieces_render {p : Program} (hne : p ≠ []) :
    Text.pieces '\n' p.render = p.flatMap fun line => Text.pieces '\n' line.render := by
  unfold render
  rw [Text.pieces_intercalate_flatMap (mt List.map_eq_nil_iff.mp hne), List.flatMap_map]

theorem flatMap_pieces {p : Program} (h : ∀ line ∈ p, line.IsReadable) :
    (p.flatMap fun line => Text.pieces '\n' line.render) = p.map Line.render := by
  induction p with
  | nil => rfl
  | cons line p ih =>
    obtain ⟨hline, hrest⟩ := List.forall_mem_cons.mp h
    rw [List.flatMap_cons, Text.pieces_of_not_mem (Line.lineFeed_not_mem_render hline), ih hrest, List.map_cons,
      List.singleton_append]

/-- What is written for a program of at least one line is read as the program. -/
theorem read?_render {p : Program} (hne : p ≠ []) (h : ∀ line ∈ p, line.IsReadable) : read? p.render = some p := by
  unfold read?
  rw [pieces_render hne, flatMap_pieces h]
  exact mapM_read?_render h

end Program

end TurtleGraphics.Plotter
