import Mathlib.Tactic
import TurtleGraphics.Script.Writer
import TurtleGraphics.Proofs.Schema.Coerce
import TurtleGraphics.Proofs.Script.Lines

/-! Scripts written and read again. The commands come back with the binary64 numbers nearest to their values, and are
refused exactly for the values that have no finite one. -/

namespace TurtleGraphics

def Number.nearest : Number → Binary64
  | .int n => .ofInt n
  | .float x => x

/-- An integer that is not too long to be written, nor to be read in a dialect. -/
def Number.Fits (d : Json.Dialect) : Number → Prop
  | .int n => digitCount n ≤ digitLimit ∧ digitCount n ≤ d.digits (decide (n < 0))
  | .float _ => True

namespace Command

def number? (c : Command) : Option Number :=
  match c.value with
  | .number x => some x
  | _ => none

/-- A command that a script can hold: its name is a text of characters, and its value is missing or a number that is not
too long. -/
structure IsScriptable (d : Json.Dialect) (c : Command) : Prop where
  name : ∃ s, c.name.text? = some s
  value : c.value = .null ∨ ∃ x : Number, c.value = .number x ∧ x.Fits d

/-- Whether the value, if it is a number, has a finite binary64 number nearest to it. -/
def isBounded (c : Command) : Bool := c.number?.all fun x => x.nearest.isFinite

/-- What a script keeps of a command: the text of its name, and the binary64 number nearest to its value. -/
def kept (c : Command) : Command where
  name := c.name.text?.elim c.name .text
  value := c.number?.elim c.value fun x => .float x.nearest

end Command

namespace Script

/-- One issue for each command whose value is not finite, in order and with its place, counted from the first. -/
def refusals (first : Nat) (commands : List Command) : List Issue :=
  ((commands.zipIdx first).filter fun p => !p.1.isBounded).map fun p => issue p.2 "value" .notFinite

def numberForm : Number → Json
  | .int n => .int n
  | .float x => .float x

def members (s : String) : Option Number → List (LooseText × Json)
  | none => [(.whole "name", .string (.whole s))]
  | some x => [(.whole "name", .string (.whole s)), (.whole "value", numberForm x)]

def form (c : Command) : Json := .object (members (c.name.text?.getD "") c.number?)

def keptLine (c : Command) : ScriptLine := ⟨c.name.text?.getD "", c.number?.map Number.nearest⟩

theorem toJson_of_text? {d : Datum} {s : String} (h : d.text? = some s) : d.toJson = .ok (.string (.whole s)) := by
  cases d with
  | text t => cases h; rw [Datum.toJson]
  | pen p => cases h; rw [Datum.toJson]
  | verb v => cases h; rw [Datum.toJson]
  | _ => cases h

theorem numberJson_ok {d : Json.Dialect} {x : Number} (h : x.Fits d) : Datum.numberJson x = .ok (numberForm x) := by
  cases x with
  | int n => exact if_pos (decide_eq_true h.1)
  | float x => rfl

theorem fits_number {d : Json.Dialect} {x : Number} (h : x.Fits d) (room : Nat) : Json.Fits d room (numberForm x) := by
  cases x with
  | int n => exact .int room h.2
  | float x => exact .float room x

theorem isWhole_number (x : Number) : (numberForm x).isWhole = true := by
  cases x <;> rfl

section Forms

variable {d : Json.Dialect} {c : Command} (h : c.IsScriptable d)

include h

theorem toJson_entry : (entry c).toJson = .ok (form c) := by
  obtain ⟨s, hs⟩ := h.name
  have hname := toJson_of_text? hs
  have hkey : ∀ t : String, Datum.nameJson (.text t) = .ok (.whole t) := fun t => rfl
  unfold entry form Command.number?
  rw [hs]
  rcases h.value with hnull | ⟨x, hx, hfits⟩
  · rw [hnull]
    simp only [Datum.toJson, Datum.entriesToJson, Datum.entryToJson, hname, hkey]
    rfl
  · have hnumber := numberJson_ok hfits
    rw [hx]
    simp only [Datum.toJson, Datum.entriesToJson, Datum.entryToJson, hname, hkey, hnumber]
    rfl

theorem fits_form (room : Nat) : Json.Fits d (room + 1) (form c) := by
  unfold form Command.number?
  rcases h.value with hnull | ⟨x, hx, hfits⟩
  · rw [hnull]
    refine .object ?_ ?_
    · intro m hm
      rw [List.mem_singleton.mp hm]
      trivial
    · intro m hm
      rw [List.mem_singleton.mp hm]
      exact .string room trivial
  · rw [hx]
    refine .object ?_ ?_
    · intro m hm
      rcases List.mem_cons.mp hm with rfl | hm
      · trivial
      · rw [List.mem_singleton.mp hm]
        trivial
    · intro m hm
      rcases List.mem_cons.mp hm with rfl | hm
      · exact .string room trivial
      · rw [List.mem_singleton.mp hm]
        exact fits_number hfits room

theorem toCommand_keptLine : (keptLine c).toCommand = c.kept := by
  obtain ⟨s, hs⟩ := h.name
  unfold Command.kept keptLine ScriptLine.toCommand Command.number?
  rw [hs]
  rcases h.value with hnull | ⟨x, hx, -⟩
  · rw [hnull]
    rfl
  · rw [hx]
    rfl

end Forms

theorem isWhole_form (c : Command) : (form c).isWhole = true := by
  unfold form
  cases c.number? with
  | none => rfl
  | some x =>
    have hx := isWhole_number x
    simp only [members, Json.isWhole, Json.membersWhole, Json.memberWhole, LooseText.isWhole, hx]
    rfl

theorem member?_name (s : String) (amount : Option Number) :
    Json.member? "name" (members s amount) = some (.string (.whole s)) := by
  cases amount <;> rfl

theorem member?_value (s : String) (amount : Option Number) :
    Json.member? "value" (members s amount) = amount.map numberForm := by
  cases amount <;> rfl

theorem refusals_of_all {commands : List Command} (h : commands.all Command.isBounded = true) (first : Nat) :
    refusals first commands = [] := by
  unfold refusals
  rw [List.map_eq_nil_iff, List.filter_eq_nil_iff]
  intro p hp
  have hmem := List.fst_mem_of_mem_zipIdx hp
  rw [List.all_eq_true.mp h p.1 hmem]
  decide

theorem refusals_cons (first : Nat) (c : Command) (commands : List Command) :
    refusals first (c :: commands) =
      (if c.isBounded then [] else [issue first "value" .notFinite]) ++ refusals (first + 1) commands := by
  unfold refusals
  rw [List.zipIdx_cons, List.filter_cons]
  cases c.isBounded <;> rfl

section Lenient

variable [Validation] {Numeric : String → Binary64 → Prop} (lax : Validation.IsLax Numeric)

include lax

theorem finiteNumber_form (x : Number) :
    Validation.finiteNumber (numberForm x) = if x.nearest.isFinite then .ok x.nearest else .error .notFinite := by
  have hnumber : (numberForm x).IsNumber Numeric x.nearest := by
    cases x with
    | int n => exact .int n
    | float x => exact .float x
  have hne : numberForm x ≠ .null := by cases x <;> exact nofun
  split
  · next h => exact lax.finiteNumber.mpr ⟨hnumber, h⟩
  · next h => exact (lax.notFiniteNumber hne).mpr (.notFinite hnumber (Bool.eq_false_iff.mpr h))

omit lax

theorem readAmount_some {fields : List (LooseText × Json)} {j : Json} (place : Nat)
    (h : Json.member? "value" fields = some j) (hj : j ≠ .null) :
    readAmount place fields =
      ((Validation.finiteNumber j).map some).mapError fun cause => [issue place "value" cause] := by
  unfold readAmount
  rw [h]
  cases j with
  | null => exact absurd rfl hj
  | _ => rfl

include lax

theorem readAmount_members (place : Nat) (s : String) (amount : Option Number) :
    readAmount place (members s amount) =
      if amount.all fun x => x.nearest.isFinite then .ok (amount.map Number.nearest)
      else .error [issue place "value" .notFinite] := by
  have hmember := member?_value s amount
  cases amount with
  | none => rfl
  | some x =>
    have hne : numberForm x ≠ .null := by cases x <;> exact nofun
    rw [readAmount_some place hmember hne, finiteNumber_form lax, Option.all_some]
    cases x.nearest.isFinite <;> rfl

theorem readLine_form (place : Nat) (c : Command) :
    readLine place (form c) = if c.isBounded then .ok (keptLine c) else .error [issue place "value" .notFinite] := by
  have hname : readName place (members (c.name.text?.getD "") c.number?) = .ok (c.name.text?.getD "") := by
    unfold readName
    rw [member?_name]
    dsimp only
    rw [lax.text]
    rfl
  unfold form readLine
  dsimp only
  rw [hname, readAmount_members lax]
  unfold Command.isBounded
  cases c.number?.all fun x => x.nearest.isFinite <;> rfl

theorem readLines_forms (first : Nat) (commands : List Command) :
    readLines first (commands.map form) =
      if commands.all Command.isBounded then .ok (commands.map keptLine)
      else .error (refusals first commands) := by
  induction commands generalizing first with
  | nil => rfl
  | cons c commands ih =>
    rw [List.map_cons, readLines, readLine_form lax, ih, List.all_cons, refusals_cons]
    cases hc : c.isBounded with
    | true =>
      cases hrest : commands.all Command.isBounded with
      | true => rfl
      | false => rfl
    | false =>
      -- A refused command adds its issue in front, whether or not the rest is refused too.
      cases hrest : commands.all Command.isBounded with
      | true =>
        rw [refusals_of_all hrest]
        rfl
      | false => rfl

end Lenient

theorem allToJson_entries {d : Json.Dialect} {commands : List Command} (h : ∀ c ∈ commands, c.IsScriptable d) :
    Datum.allToJson (commands.map entry) = .ok (commands.map form) := by
  induction commands with
  | nil => rw [List.map_nil, Datum.allToJson]; rfl
  | cons c commands ih =>
    have hc := toJson_entry (h c List.mem_cons_self)
    have hrest := ih fun k hk => h k (List.mem_cons_of_mem c hk)
    rw [List.map_cons, Datum.allToJson, hc, hrest]
    rfl

theorem allWhole_forms (commands : List Command) : Json.allWhole (commands.map form) = true := by
  induction commands with
  | nil => rfl
  | cons c commands ih =>
    rw [List.map_cons, Json.allWhole, isWhole_form, ih]
    rfl

/-- A command that was read is scriptable and keeps all that it holds. -/
theorem kept_toCommand (d : Json.Dialect) {line : ScriptLine} (h : IsFiniteLine line) :
    line.toCommand.IsScriptable d ∧ line.toCommand.isBounded = true ∧ line.toCommand.kept = line.toCommand := by
  obtain ⟨name, value⟩ := line
  cases value with
  | none => exact ⟨⟨⟨name, rfl⟩, .inl rfl⟩, rfl, rfl⟩
  | some x => exact ⟨⟨⟨name, rfl⟩, .inr ⟨.float x, rfl, trivial⟩⟩, h x rfl, rfl⟩

section Scripts

variable [Validation] {d : Json.Dialect} {Numeric : String → Binary64 → Prop} (reads : Validation.Reads d)
  (lax : Validation.IsLax Numeric) {indent : Option Int} (hindent : isIndent indent = true)

include reads hindent

/-- What is written for scriptable commands is a text that is read as their forms. -/
theorem parse_write {commands : List Command} (h : ∀ c ∈ commands, c.IsScriptable d) :
    ∃ text, write indent commands = .ok text ∧
      parse (Text.Utf8.encode text.toList) = readLines 0 (commands.map form) := by
  have hjson : toJson commands = .ok (.array (commands.map form)) := by
    unfold toJson
    rw [Datum.toJson, allToJson_entries h]
    rfl
  have hfits : Json.Fits d d.deepest (.array (commands.map form)) := by
    obtain ⟨room, hroom⟩ := Nat.exists_eq_add_of_le' reads.room
    rw [hroom]
    refine .array ?_
    intro j hj
    obtain ⟨c, hc, rfl⟩ := List.mem_map.mp hj
    exact fits_form (h c hc) room
  refine ⟨Json.write (.ofIndent indent) (.array (commands.map form)), ?_, ?_⟩
  · unfold write
    rw [if_pos hindent, hjson]
    rfl
  · have hwhole : (Json.array (commands.map form)).isWhole = true := by
      rw [Json.isWhole]
      exact allWhole_forms commands
    have hspelled := Json.readAll_eq_ok_iff.mp (Json.readAll_render d (.ofIndent indent) hfits)
    unfold parse Json.write
    rw [String.toList_ofList, reads.strictJson? hspelled hwhole]
    rfl

include lax

theorem reload_write_forms {commands : List Command} (h : ∀ c ∈ commands, c.IsScriptable d) :
    ∃ text, write indent commands = .ok text ∧
      reload text =
        if commands.all Command.isBounded then .ok (commands.map Command.kept)
        else .error (.script (refusals 0 commands)) := by
  obtain ⟨text, hwrite, hparse⟩ := parse_write reads hindent h
  refine ⟨text, hwrite, ?_⟩
  have hkept : (commands.map keptLine).map ScriptLine.toCommand = commands.map Command.kept := by
    rw [List.map_map]
    exact List.map_congr_left fun c hc => toCommand_keptLine (h c hc)
  unfold reload load
  rw [hparse, readLines_forms lax]
  cases commands.all Command.isBounded with
  | true => exact congrArg Except.ok hkept
  | false => rfl

omit reads lax hindent

theorem kept_of_load (d : Json.Dialect) {bytes : List UInt8} {commands : List Command}
    (h : load bytes = .ok commands) : ∀ c ∈ commands, c.IsScriptable d ∧ c.isBounded = true ∧ c.kept = c := by
  obtain ⟨lines, rfl, hfinite⟩ := exists_lines_of_load h
  intro c hc
  obtain ⟨line, hline, rfl⟩ := List.mem_map.mp hc
  exact kept_toCommand d (hfinite line hline)

end Scripts

/-- With an indentation that is a size, a script that was written is read as what it keeps of its commands, or refused
with an issue for each value that is not finite. What was read once is written and read again without a change. -/
theorem reload_write [Validation] {d : Json.Dialect} {Numeric : String → Binary64 → Prop}
    (reads : Validation.Reads d) (lax : Validation.IsLax Numeric) {indent : Option Int}
    (hindent : isIndent indent = true) :
    (∀ commands : List Command, (∀ c ∈ commands, c.IsScriptable d) →
      ∃ text, write indent commands = .ok text ∧
        reload text =
          if commands.all Command.isBounded then .ok (commands.map Command.kept)
          else .error (.script (refusals 0 commands))) ∧
    ∀ (bytes : List UInt8) (commands : List Command), load bytes = .ok commands →
      ∃ text, write indent commands = .ok text ∧ reload text = .ok commands := by
  constructor
  · intro commands h
    exact reload_write_forms reads lax hindent h
  · intro bytes commands h
    have hkept := kept_of_load d h
    obtain ⟨text, hwrite, hreload⟩ := reload_write_forms reads lax hindent fun c hc => (hkept c hc).1
    have hall : commands.all Command.isBounded = true := List.all_eq_true.mpr fun c hc => (hkept c hc).2.1
    have hsame : commands.map Command.kept = commands := by
      conv_rhs => rw [← List.map_id commands]
      exact List.map_congr_left fun c hc => (hkept c hc).2.2
    rw [if_pos hall, hsame] at hreload
    exact ⟨text, hwrite, hreload⟩

/-- A pen command and two moves, by half a step and by a number of steps. -/
def halfSteps (steps : Number) : List Command :=
  [⟨.verb .penDown, .null⟩, ⟨.text "MOVE", .float (.ofRatio false unitsPerOne 2)⟩, ⟨.text "MOVE", .number steps⟩]

theorem isScriptable_halfSteps {steps : Number} (h : steps.Fits .strict) :
    ∀ c ∈ halfSteps steps, c.IsScriptable .strict := by
  intro c hc
  simp only [halfSteps, List.mem_cons, List.not_mem_nil, or_false] at hc
  rcases hc with rfl | rfl | rfl
  · exact ⟨⟨_, rfl⟩, .inl rfl⟩
  · exact ⟨⟨_, rfl⟩, .inr ⟨_, rfl, trivial⟩⟩
  · exact ⟨⟨_, rfl⟩, .inr ⟨_, rfl, h⟩⟩

open Standard

theorem reload_halfSteps :
    (∃ text again, write none (halfSteps (.int 10)) = .ok text ∧
      reload text = .ok ((halfSteps (.int 10)).map Command.kept) ∧
      write (some 2) ((halfSteps (.int 10)).map Command.kept) = .ok again ∧
      reload again = .ok ((halfSteps (.int 10)).map Command.kept)) ∧
    ∃ text, write none (halfSteps (.float .notANumber)) = .ok text ∧
      reload text = .error (.script [issue 2 "value" .notFinite]) := by
  have hfinite : (halfSteps (.int 10)).all Command.isBounded = true := by decide +kernel
  have hrefused : (halfSteps (.float .notANumber)).all Command.isBounded = false := by decide +kernel
  have hissues : refusals 0 (halfSteps (.float .notANumber)) = [issue 2 "value" .notFinite] := by decide +kernel
  have hten : Number.Fits .strict (.int 10) := ⟨by decide, by decide⟩
  have hround := fun indent => @reload_write _ _ _ Validation.reads_standard Validation.isLax_standard indent
  obtain ⟨text, hwrite, hreload⟩ := (hround none rfl).1 _ (isScriptable_halfSteps hten)
  rw [if_pos hfinite] at hreload
  obtain ⟨again, hagain, hsame⟩ := (hround (some 2) rfl).2 _ _ hreload
  obtain ⟨other, hother, herror⟩ := (hround none rfl).1 _ (@isScriptable_halfSteps (.float .notANumber) trivial)
  rw [hrefused, if_neg (by decide), hissues] at herror
  exact ⟨⟨text, again, hwrite, hreload, hagain, hsame⟩, other, hother, herror⟩

/-- An indentation that is no size is refused, even when there is nothing to indent. -/
theorem hugeIndent_not_written : ¬∃ text, write (some 1000000000000000000000000000000) [] = .ok text := by
  rintro ⟨text, h⟩
  have hindent : isIndent (some 1000000000000000000000000000000) = false := by decide
  unfold write at h
  rw [hindent] at h
  cases h

end Script

end TurtleGraphics
