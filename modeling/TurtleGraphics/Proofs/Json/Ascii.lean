import Mathlib.Tactic
import TurtleGraphics.Json.Writer
import TurtleGraphics.Proofs.Decimal.Characters
import TurtleGraphics.Proofs.Text.Utf8

/-! Written JSON text is ASCII. Besides line feeds it has no control characters, so that a file with it is read
character by character as it was written. -/

namespace TurtleGraphics.Json

/-- A line feed, or an ASCII character that is no control character. -/
def isAscii (c : Char) : Bool := c = '\n' || (32 ≤ c.toNat && c.toNat < 127)

def IsAscii (text : List Char) : Prop := ∀ c ∈ text, isAscii c = true

namespace IsAscii

variable {first second : List Char}

theorem nil : IsAscii [] := nofun

theorem of_all (h : first.all isAscii = true) : IsAscii first := List.all_eq_true.mp h

theorem append (h : IsAscii first) (h' : IsAscii second) : IsAscii (first ++ second) :=
  List.forall_mem_append.mpr ⟨h, h'⟩

theorem cons {c : Char} (hc : isAscii c = true) (h : IsAscii first) : IsAscii (c :: first) :=
  List.forall_mem_cons.mpr ⟨hc, h⟩

/-- Numbers are written with ASCII characters. -/
theorem of_isNumeric (h : IsNumeric first) : IsAscii first := by
  intro c hc
  have hnumeric := h c hc
  unfold isNumeric at hnumeric
  rw [Bool.or_eq_true] at hnumeric
  rcases hnumeric with hdigit | hother
  · rw [Char.isDigit_iff_toNat] at hdigit
    have hlow : '0'.toNat = 48 := rfl
    have hhigh : '9'.toNat = 57 := rfl
    simp only [isAscii, Bool.or_eq_true, Bool.and_eq_true, decide_eq_true_eq]
    omega
  · have hall : ['-', '+', '.', 'e', 'i', 'n', 'f', 'a'].all isAscii = true := by decide
    exact List.all_eq_true.mp hall c (List.contains_iff_mem.mp hother)

theorem flatMap {α : Type} {l : List α} {f : α → List Char} (h : ∀ a ∈ l, IsAscii (f a)) : IsAscii (l.flatMap f) := by
  intro c hc
  obtain ⟨a, ha, hca⟩ := List.mem_flatMap.mp hc
  exact h a ha c hca

theorem intText (n : Int) : IsAscii (Number.intText n) := of_isNumeric (.int n)

theorem renderNumber (x : Binary64) : IsAscii (renderNumber x) := by
  cases x with
  | notANumber => exact of_all (by decide)
  | infinite negative => exact (of_isNumeric (.sign negative)).append (of_all (by decide))
  | finite negative m => exact of_isNumeric (.shortestText _)

theorem hex (width n : Nat) : IsAscii (Text.hex width n) := by
  induction width generalizing n with
  | zero => exact nil
  | succ width ih =>
    have hdigit : ∀ d : Fin 16, isAscii (Nat.digitChar d.val) = true := by decide
    exact (ih (n / 16)).append (cons (hdigit ⟨n % 16, Nat.mod_lt n (by decide)⟩) nil)

theorem unitEscape (unit : Nat) : IsAscii (unitEscape unit) := cons rfl (cons rfl (hex 4 unit))

theorem escapeLetter {c letter : Char} (h : escapeLetter? c = some letter) : isAscii letter = true := by
  unfold escapeLetter? at h
  split at h
  · next hc =>
    cases h
    rcases hc with rfl | rfl <;> rfl
  · repeat (split at h; · cases h; rfl)
    cases h

theorem escapeChar (c : Char) : IsAscii (escapeChar c) := by
  unfold Json.escapeChar
  split
  · next letter hletter => exact cons rfl (cons (escapeLetter hletter) nil)
  · split
    · next hplain =>
      refine cons ?_ nil
      simp only [isAscii, Bool.or_eq_true, Bool.and_eq_true, decide_eq_true_eq]
      exact .inr hplain
    · split
      · exact unitEscape _
      · exact (unitEscape _).append (unitEscape _)

theorem escapePoint (p : CodePoint) : IsAscii (escapePoint p) := by
  cases p with
  | char c => exact escapeChar c
  | surrogate unit => exact unitEscape unit

theorem renderLoose (s : LooseText) : IsAscii (renderLoose s) := by
  have hquote : IsAscii ['"'] := cons rfl nil
  cases s with
  | whole s => exact cons rfl ((flatMap fun c _ => escapeChar c).append hquote)
  | broken points => exact cons rfl ((flatMap fun p _ => escapePoint p).append hquote)

theorem lineBreak (layout : Layout) (level : Nat) : IsAscii (layout.lineBreak level) := by
  cases layout with
  | oneLine => exact nil
  | indented step =>
    refine cons rfl ?_
    intro c hc
    rw [List.eq_of_mem_replicate hc]
    rfl

theorem separator (layout : Layout) (level : Nat) : IsAscii (layout.separator level) := by
  cases layout with
  | oneLine => exact cons rfl (cons rfl nil)
  | indented step => exact cons rfl (lineBreak (.indented step) level)

end IsAscii

variable (layout : Layout)

mutual

theorem isAscii_render : ∀ (level : Nat) (j : Json), IsAscii (render layout level j)
  | level, .null => by
    rw [render]
    exact .of_all (by decide)
  | level, .bool b => by
    rw [render]
    cases b with
    | true => exact .of_all (by decide)
    | false => exact .of_all (by decide)
  | level, .int n => IsAscii.intText n
  | level, .float x => IsAscii.renderNumber x
  | level, .string s => IsAscii.renderLoose s
  | level, .array [] => .cons rfl (.cons rfl .nil)
  | level, .array (j :: rest) => by
    rw [render]
    exact ((((IsAscii.cons rfl (.lineBreak layout _)).append (isAscii_render (level + 1) j)).append
      (isAscii_renderItems (level + 1) rest)).append (.lineBreak layout level)).append (.cons rfl .nil)
  | level, .object [] => .cons rfl (.cons rfl .nil)
  | level, .object (m :: rest) => by
    rw [render]
    exact ((((IsAscii.cons rfl (.lineBreak layout _)).append (isAscii_renderMember (level + 1) m)).append
      (isAscii_renderMembers (level + 1) rest)).append (.lineBreak layout level)).append (.cons rfl .nil)
termination_by structural _ j => j

theorem isAscii_renderItems : ∀ (level : Nat) (items : List Json), IsAscii (renderItems layout level items)
  | _, [] => .nil
  | level, j :: rest =>
    ((IsAscii.separator layout level).append (isAscii_render level j)).append (isAscii_renderItems level rest)
termination_by structural _ items => items

theorem isAscii_renderMembers :
    ∀ (level : Nat) (members : List (LooseText × Json)), IsAscii (renderMembers layout level members)
  | _, [] => .nil
  | level, m :: rest =>
    ((IsAscii.separator layout level).append (isAscii_renderMember level m)).append (isAscii_renderMembers level rest)
termination_by structural _ members => members

theorem isAscii_renderMember : ∀ (level : Nat) (m : LooseText × Json), IsAscii (renderMember layout level m)
  | level, (name, j) => (IsAscii.renderLoose name).append (.cons rfl (.cons rfl (isAscii_render level j)))
termination_by structural _ m => m

end

/-- A file with written text is read without a change of its line ends. -/
theorem unifyLineEnds_render (level : Nat) (j : Json) :
    Text.unifyLineEnds (render layout level j) = render layout level j :=
  Text.unifyLineEnds_of_not_mem fun hr => absurd (isAscii_render layout level j '\r' hr) (by decide)

end TurtleGraphics.Json
