import Mathlib.Tactic
import TurtleGraphics.Number

/-! The characters that numbers are written with, whatever the style and the choice of the digits. -/

namespace TurtleGraphics

/-- A digit, or one of the characters of signs, points, exponents and the words for what is not finite. -/
def isNumeric (c : Char) : Bool := c.isDigit || ['-', '+', '.', 'e', 'i', 'n', 'f', 'a'].contains c

def IsNumeric (text : List Char) : Prop := ∀ c ∈ text, isNumeric c = true

namespace IsNumeric

variable {first second digits : List Char}

theorem nil : IsNumeric [] := nofun

theorem append (h : IsNumeric first) (h' : IsNumeric second) : IsNumeric (first ++ second) := by
  intro c hc
  exact (List.mem_append.mp hc).elim (h c) (h' c)

theorem cons {c : Char} (hc : isNumeric c = true) (h : IsNumeric first) : IsNumeric (c :: first) :=
  List.forall_mem_cons.mpr ⟨hc, h⟩

theorem of_subset (h : IsNumeric second) (hsub : ∀ c ∈ first, c ∈ second) : IsNumeric first :=
  fun c hc => h c (hsub c hc)

theorem not_mem (h : IsNumeric first) {c : Char} (hc : isNumeric c = false) : c ∉ first := by
  intro hmem
  rw [h c hmem] at hc
  cases hc

theorem of_digits (h : ∀ c ∈ first, c.isDigit = true) : IsNumeric first := by
  intro c hc
  unfold isNumeric
  rw [h c hc, Bool.true_or]

theorem toDigits (n : Nat) : IsNumeric (Nat.toDigits 10 n) :=
  of_digits fun _ hc => Nat.isDigit_of_mem_toDigits (by decide) (by decide) hc

theorem zeros (n : Nat) : IsNumeric (List.replicate n '0') := by
  intro c hc
  rw [List.eq_of_mem_replicate hc]
  rfl

theorem sign (negative : Bool) : IsNumeric (Binary64.signText negative) := by
  cases negative with
  | false => exact nil
  | true => exact cons rfl nil

theorem int (n : Int) : IsNumeric (Number.intText n) := (sign _).append (toDigits _)

theorem exponentText (e : Int) : IsNumeric (NumberStyle.exponentText e) := by
  unfold NumberStyle.exponentText
  refine cons rfl (cons ?_ ?_)
  · split <;> rfl
  · split
    · exact cons rfl (toDigits _)
    · exact toDigits _

variable {style : NumberStyle}

theorem positional (hmark : IsNumeric style.wholeMark) (h : IsNumeric digits) (lead : Int) :
    IsNumeric (style.positional digits lead) := by
  unfold NumberStyle.positional
  split
  · exact cons rfl (cons rfl ((zeros _).append h))
  · split
    · exact (h.append (zeros _)).append hmark
    · exact (h.of_subset fun _ => List.mem_of_mem_take).append (cons rfl (h.of_subset fun _ => List.mem_of_mem_drop))

theorem exponential (h : IsNumeric digits) (lead : Int) : IsNumeric (NumberStyle.exponential digits lead) := by
  have htail := exponentText lead
  unfold NumberStyle.exponential
  split
  · exact htail
  · exact h.append htail
  · obtain ⟨hfirst, hrest⟩ := List.forall_mem_cons.mp h
    exact cons hfirst (cons rfl (append hrest htail))

theorem write (hmark : IsNumeric style.wholeMark) (h : IsNumeric digits) (lead : Int) :
    IsNumeric (style.write digits lead) := by
  unfold NumberStyle.write
  split
  · exact positional hmark h lead
  · exact exponential h lead

theorem toText (hmark : IsNumeric style.wholeMark) (pick : Magnitude → Decimal) (x : Binary64) :
    IsNumeric (x.toText style pick) := by
  cases x with
  | notANumber => exact cons rfl (cons rfl (cons rfl nil))
  | infinite s => exact (sign s).append (cons rfl (cons rfl (cons rfl nil)))
  | finite s m => exact (sign s).append (write hmark (toDigits _) _)

theorem shortestText (x : Binary64) : IsNumeric x.shortestText := toText (cons rfl (cons rfl nil)) _ x

theorem briefText (x : Binary64) : IsNumeric x.briefText := toText nil _ x

theorem hundredthsText (x : Binary64) : IsNumeric x.hundredthsText := by
  cases x with
  | notANumber => exact cons rfl (cons rfl (cons rfl nil))
  | infinite s => exact (sign s).append (cons rfl (cons rfl (cons rfl nil)))
  | finite s m => exact (sign s).append ((toDigits _).append (cons rfl ((toDigits _).append (toDigits _))))

end IsNumeric

end TurtleGraphics
