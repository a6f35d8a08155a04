import Mathlib.Tactic
import TurtleGraphics.Script.Basic

/-! The lines of a script. A value that is read is finite. -/

namespace TurtleGraphics.Script

def IsFiniteLine (line : ScriptLine) : Prop := ∀ x, line.value = some x → x.isFinite = true

theorem isFinite_of_readAmount [Validation] {place : Nat} {fields : List (LooseText × Json)} {x : Binary64}
    (h : readAmount place fields = .ok (some x)) : x.isFinite = true := by
  unfold readAmount at h
  split at h
  · cases h
  · cases h
  · next j _ hj =>
    cases hnumber : Validation.finiteNumber j with
    | error cause =>
      rw [hnumber] at h
      cases h
    | ok y =>
      rw [hnumber] at h
      cases h
      exact Validation.isFinite_finiteNumber hnumber

theorem isFiniteLine_of_readLine [Validation] {place : Nat} {j : Json} {line : ScriptLine}
    (h : readLine place j = .ok line) :
    IsFiniteLine line := by
  unfold readLine at h
  split at h
  · obtain ⟨name, amount, -, hamount, rfl⟩ := Checked.both_ok h
    intro x hx
    dsimp only at hx
    rw [hx] at hamount
    exact isFinite_of_readAmount hamount
  · cases h

theorem isFiniteLine_of_readLines [Validation] {items : List Json} {first : Nat} {lines : List ScriptLine}
    (h : readLines first items = .ok lines) : ∀ line ∈ lines, IsFiniteLine line := by
  induction items generalizing first lines with
  | nil =>
    cases h
    intro line hline
    cases hline
  | cons j items ih =>
    rw [readLines] at h
    obtain ⟨line, rest, hline, hrest, rfl⟩ := Checked.both_ok h
    intro l hl
    rcases List.mem_cons.mp hl with rfl | hl
    · exact isFiniteLine_of_readLine hline
    · exact ih hrest l hl

variable {bytes : List UInt8} {commands : List Command}

theorem load_eq_ok_iff [Validation] :
    load bytes = .ok commands ↔ ∃ lines, parse bytes = .ok lines ∧ lines.map ScriptLine.toCommand = commands := by
  unfold load
  cases parse bytes <;> simp

theorem load_eq_error_iff [Validation] {fault : Fault} :
    load bytes = .error fault ↔ ∃ issues, parse bytes = .error issues ∧ .script issues = fault := by
  unfold load
  cases parse bytes <;> simp

theorem exists_lines_of_load [Validation] (h : load bytes = .ok commands) :
    ∃ lines : List ScriptLine, commands = lines.map ScriptLine.toCommand ∧ ∀ line ∈ lines, IsFiniteLine line := by
  obtain ⟨lines, hlines, rfl⟩ := load_eq_ok_iff.mp h
  unfold parse at hlines
  split at hlines
  · unfold ofJson at hlines
    split at hlines
    · exact ⟨lines, rfl, isFiniteLine_of_readLines hlines⟩
    · cases hlines
  · cases hlines

end TurtleGraphics.Script
