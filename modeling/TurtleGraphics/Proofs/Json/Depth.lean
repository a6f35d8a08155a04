import Mathlib.Tactic
import TurtleGraphics.Proofs.Decimal.Characters
import TurtleGraphics.Proofs.Json.Grammar

/-! Brackets that are open in JSON text. A whole text closes all that it opens, so what leaves a bracket open is read as
nothing. -/

namespace TurtleGraphics.Json

/-- Between two characters: how many brackets are open, whatever their kinds, and whether a text is, or an escape in
one. -/
inductive Nesting where
  | outside (depth : Nat)
  | quoted (depth : Nat)
  | escaped (depth : Nat)

namespace Nesting

def step : Nesting → Char → Nesting
  | outside depth, c =>
    if c = '"' then quoted depth
    else if c = '[' ∨ c = '\x7b' then outside (depth + 1)
    else if c = ']' ∨ c = '\x7d' then outside (depth - 1)
    else outside depth
  | quoted depth, c => if c = '"' then outside depth else if c = '\\' then escaped depth else quoted depth
  | escaped depth, _ => quoted depth

def scan (s : Nesting) (text : List Char) : Nesting := text.foldl step s

theorem scan_append (s : Nesting) (first second : List Char) :
    s.scan (first ++ second) = (s.scan first).scan second := List.foldl_append

/-- One line feed for a carriage return, or for both together, is the same to the scan. -/
theorem scan_unifyLineEnds (s : Nesting) (text : List Char) : s.scan (Text.unifyLineEnds text) = s.scan text := by
  have hreturn : ∀ t : Nesting, t.step '\r' = t.step '\n' := fun t => by cases t <;> rfl
  have hboth : ∀ t : Nesting, (t.step '\r').step '\n' = t.step '\n' := fun t => by cases t <;> rfl
  fun_induction Text.unifyLineEnds text generalizing s with
  | case1 => rfl
  | case2 rest ih =>
    change scan (s.step '\n') _ = scan ((s.step '\r').step '\n') rest
    rw [ih, hboth]
  | case3 rest _ ih =>
    change scan (s.step '\n') _ = scan (s.step '\r') rest
    rw [ih, hreturn]
  | case4 c rest _ _ ih => exact ih (s.step c)

end Nesting

/-- Scanned from outside of texts, it leaves so many more brackets open and ends outside of texts again. -/
def Opens (count : Nat) (text : List Char) : Prop :=
  ∀ depth, (Nesting.outside depth).scan text = .outside (depth + count)

/-- Scanned between quotes, it does not end the text between them. -/
def StaysQuoted (text : List Char) : Prop := ∀ depth, (Nesting.quoted depth).scan text = .quoted depth

/-- What opens or closes something outside of texts. -/
def loudChars : List Char := ['"', '[', ']', '\x7b', '\x7d']

def isQuiet (c : Char) : Bool := !loudChars.contains c

theorem isQuiet_of_class {p : Char → Bool} (hp : loudChars.all (fun c => !p c) = true) {c : Char} (hc : p c = true) :
    isQuiet c = true := by
  by_contra hloud
  have hmem : c ∈ loudChars := by simpa [isQuiet] using hloud
  have hnot := List.all_eq_true.mp hp c hmem
  rw [hc] at hnot
  cases hnot

variable {first second text : List Char} {j k : Nat}

namespace Opens

theorem nil : Opens 0 [] := fun _ => rfl

theorem append (h : Opens j first) (h' : Opens k second) : Opens (j + k) (first ++ second) := by
  intro depth
  rw [Nesting.scan_append, h, h', Nat.add_assoc]

theorem append_closed (h : Opens j first) (h' : Opens 0 second) : Opens j (first ++ second) := h.append h'

theorem quiet (h : ∀ c ∈ text, isQuiet c = true) : Opens 0 text := by
  intro depth
  induction text with
  | nil => rfl
  | cons c text ih =>
    rw [List.forall_mem_cons] at h
    have hstep : (Nesting.outside depth).step c = .outside depth := by
      have hc := h.1
      simp only [isQuiet, loudChars, List.contains_eq_mem, List.mem_cons, List.not_mem_nil, or_false, Bool.not_eq_true',
        decide_eq_false_iff_not, not_or] at hc
      simp [Nesting.step, hc]
    change ((Nesting.outside depth).step c).scan text = _
    rw [hstep]
    exact ih h.2

theorem of_all (h : text.all isQuiet = true) : Opens 0 text := quiet (List.all_eq_true.mp h)

theorem bracket {c : Char} (hc : c = '[' ∨ c = '\x7b') : Opens 1 [c] := by
  intro depth
  rcases hc with rfl | rfl
  · rfl
  · rfl

/-- A closing bracket closes what is open. -/
theorem close (h : Opens (k + 1) text) {c : Char} (hc : c = ']' ∨ c = '\x7d') : Opens k (text ++ [c]) := by
  intro depth
  rw [Nesting.scan_append, h]
  rcases hc with rfl | rfl
  · rfl
  · rfl

theorem blank (h : IsBlank text) : Opens 0 text := quiet fun c hc => isQuiet_of_class (by decide) (h c hc)

theorem numeric (h : IsNumeric text) : Opens 0 text := quiet fun c hc => isQuiet_of_class (by decide) (h c hc)

theorem digits (h : ∀ c ∈ text, c.isDigit = true) : Opens 0 text := numeric (.of_digits h)

theorem quote (h : StaysQuoted text) : Opens 0 ('"' :: (text ++ ['"'])) := by
  intro depth
  change (Nesting.quoted depth).scan (text ++ ['"']) = _
  rw [Nesting.scan_append, h]
  rfl

/-- An opening bracket, what closes all that it opens, and a closing bracket. -/
theorem enclosed (h : Opens 0 text) {c c' : Char} (hc : c = '[' ∨ c = '\x7b') (hc' : c' = ']' ∨ c' = '\x7d') :
    Opens 0 (c :: (text ++ [c'])) := by
  have hopen : Opens (0 + 1) ([c] ++ text) := (bracket hc).append h
  exact hopen.close hc'

end Opens

namespace StaysQuoted

theorem nil : StaysQuoted [] := fun _ => rfl

theorem append (h : StaysQuoted first) (h' : StaysQuoted second) : StaysQuoted (first ++ second) := by
  intro depth
  rw [Nesting.scan_append, h, h']

theorem plain {c : Char} (quote : c ≠ '"') (back : c ≠ '\\') : StaysQuoted [c] := by
  intro depth
  change (Nesting.quoted depth).step c = _
  simp [Nesting.step, quote, back]

theorem escape (c : Char) : StaysQuoted ['\\', c] := fun _ => rfl

theorem flatMap {α : Type} {l : List α} {f : α → List Char} (h : ∀ a ∈ l, StaysQuoted (f a)) :
    StaysQuoted (l.flatMap f) := by
  induction l with
  | nil => exact nil
  | cons a l ih =>
    rw [List.forall_mem_cons] at h
    exact append h.1 (ih h.2)

theorem hex {value n : Nat} (h : Text.readHex? value text = some n) : StaysQuoted text := by
  induction text generalizing value with
  | nil => exact nil
  | cons c text ih =>
    obtain ⟨d, hd, hrest⟩ := Option.bind_eq_some_iff.mp h
    have hplain : StaysQuoted [c] := by
      refine plain ?_ ?_
      · rintro rfl
        cases hd
      · rintro rfl
        cases hd
    exact hplain.append (ih hrest)

theorem points {points : List CodePoint} (h : SpellsPoints text points) : StaysQuoted text := by
  induction h with
  | nil => exact nil
  | plain quote back _ _ ih => exact (plain quote back).append ih
  | @letter e c text points escape' _ ih => exact (escape e).append ih
  | @unit a b c d unit text points digits _ ih => exact ((escape 'u').append (hex digits)).append ih

theorem unitEscape (unit : Nat) : StaysQuoted (unitEscape unit) :=
  (escape 'u').append (hex (Text.readHex?_hex 0 4 unit))

theorem escapeChar (c : Char) : StaysQuoted (escapeChar c) := by
  unfold Json.escapeChar
  split
  · exact escape _
  · next hnone =>
    split
    · obtain ⟨quote, back⟩ := ne_of_escapeLetter?_none hnone
      exact plain quote back
    · split
      · exact unitEscape _
      · exact (unitEscape _).append (unitEscape _)

theorem escapePoint (p : CodePoint) : StaysQuoted (escapePoint p) := by
  cases p with
  | char c => exact escapeChar c
  | surrogate unit => exact unitEscape unit

end StaysQuoted

namespace Opens

theorem renderText (s : List Char) : Opens 0 (renderText s) := quote (.flatMap fun c _ => .escapeChar c)

theorem renderLoose (s : LooseText) : Opens 0 (renderLoose s) := by
  cases s with
  | whole s => exact renderText s.toList
  | broken points => exact quote (.flatMap fun p _ => .escapePoint p)

theorem renderNumber (x : Binary64) : Opens 0 (renderNumber x) := by
  cases x with
  | notANumber => exact of_all (by decide)
  | infinite negative => exact (numeric (.sign negative)).append (of_all (by decide))
  | finite negative m => exact numeric (.shortestText _)

theorem lineBreak (layout : Layout) (level : Nat) : Opens 0 (layout.lineBreak level) :=
  blank (isBlank_lineBreak layout level)

theorem separator (layout : Layout) (level : Nat) : Opens 0 (layout.separator level) := by
  obtain ⟨blank, heq, hblank⟩ := separator_cons layout level
  have hcomma : Opens 0 [','] := of_all (by decide)
  rw [heq]
  exact hcomma.append (.blank hblank)

theorem spellsText {s : LooseText} (h : SpellsText text s) : Opens 0 text := by
  obtain ⟨body, points, rfl, hpoints, -⟩ := h
  exact quote (.points hpoints)

theorem spellsFraction {fraction : List Char} (h : SpellsFraction text fraction) : Opens 0 text := by
  have hpoint : Opens 0 ['.'] := of_all (by decide)
  cases h with
  | none => exact nil
  | digits run => exact hpoint.append (digits run.digits)

theorem spellsPower {power : Option Int} (h : SpellsPower text power) : Opens 0 text := by
  cases h with
  | none => exact nil
  | @digits mark sign digits negative lead signed run =>
    have hmark : Opens 0 [mark] := by
      rcases lead with rfl | rfl
      · exact of_all (by decide)
      · exact of_all (by decide)
    have hsign : Opens 0 sign := by cases signed <;> exact of_all (by decide)
    exact hmark.append (hsign.append (.digits run.digits))

variable {d : Dialect} {value : Json}

theorem spellsNumber (h : SpellsNumber d text value) : Opens 0 text := by
  cases h with
  | parts negative whole _ fraction power _ =>
    exact (numeric (.sign negative)).append ((digits whole.digits).append
      ((spellsFraction fraction).append (spellsPower power)))

theorem spellsRow {α : Type} {part : List Char → α → Prop} {xs : List α} (h : SpellsRow part text xs)
    (hpart : ∀ {text x}, part text x → Opens 0 text) : Opens 0 text := by
  have hcomma : Opens 0 [','] := of_all (by decide)
  induction h with
  | last front spelled back => exact (blank front).append ((hpart spelled).append (blank back))
  | cons front spelled back _ ih =>
    exact (blank front).append ((hpart spelled).append ((blank back).append (hcomma.append ih)))

theorem spellsMember {inside : List Char → Json → Prop} {m : LooseText × Json} (h : SpellsMember inside text m)
    (hinside : ∀ {text j}, inside text j → Opens 0 text) : Opens 0 text := by
  have hcolon : Opens 0 [':'] := of_all (by decide)
  cases h with
  | mk named front back spelled =>
    exact (spellsText named).append ((blank front).append (hcolon.append ((blank back).append (hinside spelled))))

theorem spellsOver {inside : List Char → Json → Prop} (h : SpellsOver d inside text value)
    (hinside : ∀ {text j}, inside text j → Opens 0 text) : Opens 0 text := by
  cases h with
  | word hword =>
    have hall : words.all (fun w => w.1.all isQuiet) = true := by decide
    exact of_all (List.all_eq_true.mp hall _ hword)
  | number spelled => exact spellsNumber spelled
  | string spelled => exact spellsText spelled
  | noItems hblank => exact enclosed (blank hblank) (.inl rfl) (.inl rfl)
  | array row => exact enclosed (spellsRow row hinside) (.inl rfl) (.inl rfl)
  | noMembers hblank => exact enclosed (blank hblank) (.inr rfl) (.inr rfl)
  | object row => exact enclosed (spellsRow row fun h => spellsMember h hinside) (.inr rfl) (.inr rfl)

theorem spells (room : Nat) {text : List Char} {value : Json} (h : Spells d room text value) : Opens 0 text := by
  induction room generalizing text value with
  | zero => exact spellsOver h nofun
  | succ room ih => exact spellsOver h ih

theorem spellsAll (h : SpellsAll d text value) : Opens 0 text := by
  obtain ⟨before, value, after, rfl, hbefore, hspelled, hafter⟩ := h
  exact (blank hbefore).append ((spells _ hspelled).append (blank hafter))

/-- A text that leaves a bracket open is not read. -/
theorem not_parsed (h : Opens (k + 1) text) : parse d text ≠ .ok value := by
  intro hparse
  have hclosed := spellsAll (parse_eq_ok_iff.mp hparse) 0
  rw [h 0] at hclosed
  cases hclosed

end Opens

end TurtleGraphics.Json
