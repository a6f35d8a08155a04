import Mathlib.Tactic
import TurtleGraphics.Proofs.Script.Fields

/-! The language of scripts: the byte strings that are scripts, the commands that each of them stands for, and what is
wrong with every other one. -/

namespace TurtleGraphics

namespace Script

open Json

section Language

variable [Validation] (Numeric : String → Binary64 → Prop)

section Fields

variable (members : List (LooseText × Json))

/-- The last member `name` is a text. -/
def IsNamed (s : String) : Prop := IsLast "name" members (.string (.whole s))

/-- The last member `value` counts as a finite number; if it is null or absent, there is no number. -/
inductive IsAmount : Option Binary64 → Prop where
  | absent : IsAbsent "value" members → IsAmount none
  | null : IsLast "value" members .null → IsAmount none
  | number {j : Json} {x : Binary64} : IsLast "value" members j → j.IsNumber Numeric x → x.isFinite = true →
      IsAmount (some x)

inductive NameFault : IssueCause → Prop where
  | missing : IsAbsent "name" members → NameFault .missing
  | notText {j : Json} : IsLast "name" members j → (∀ s, j ≠ .string s) → NameFault .notText
  | broken {points : List CodePoint} : IsLast "name" members (.string (.broken points)) → NameFault .brokenText

def AmountFault (cause : IssueCause) : Prop := ∃ j, IsLast "value" members j ∧ j ≠ .null ∧ j.IsRefused Numeric cause

end Fields

/-- An object with a name and perhaps a value stands for the command with these, whatever other members it has. -/
inductive IsCommand : Json → Command → Prop where
  | object {members : List (LooseText × Json)} {s : String} {x : Option Binary64} : IsNamed members s →
      IsAmount Numeric members x → IsCommand (.object members) ⟨.text s, x.elim .null Datum.float⟩

/-- What is wrong with the item at a place: that it is no object, or what is wrong with its name and with its value. -/
inductive ItemIssues (place : Nat) : Json → List Issue → Prop where
  | notObject {j : Json} : (∀ members, j ≠ .object members) → ItemIssues place j [⟨[.index place], .notObject⟩]
  | object {members : List (LooseText × Json)} {named valued : List Issue}
      (name : FieldIssues place "name" (∃ s, IsNamed members s) (NameFault members) named)
      (value : FieldIssues place "value" (∃ x, IsAmount Numeric members x) (AmountFault Numeric members) valued) :
      ItemIssues place (.object members) (named ++ valued)

/-- What is wrong with items from a place on, in their order. -/
inductive ItemsIssues : Nat → List Json → List Issue → Prop where
  | nil (place : Nat) : ItemsIssues place [] []
  | cons {place : Nat} {j : Json} {items : List Json} {issues more : List Issue} : ItemIssues Numeric place j issues →
      ItemsIssues (place + 1) items more → ItemsIssues place (j :: items) (issues ++ more)

/-- What is wrong with bytes: they are no JSON text, or one of no array, or of an array with something wrong in it. -/
inductive ScriptIssues (bytes : List UInt8) : List Issue → Prop where
  | notJson : Validation.strictJson? bytes = none → ScriptIssues bytes [⟨[], .notJson⟩]
  | notList {j : Json} : Validation.strictJson? bytes = some j → (∀ items, j ≠ .array items) →
      ScriptIssues bytes [⟨[], .notList⟩]
  | items {items : List Json} {issues : List Issue} : Validation.strictJson? bytes = some (.array items) →
      ItemsIssues Numeric 0 items issues → issues ≠ [] → ScriptIssues bytes issues

variable {Numeric}

section Lenient

variable (lax : Validation.IsLax Numeric) {place : Nat} {members : List (LooseText × Json)} {j : Json} {c : Command}
  {items : List Json} {commands : List Command} {bytes : List UInt8} {issues : List Issue}

include lax

theorem readName_settles : Settles place "name" (readName place members) (IsNamed members) (NameFault members) := by
  apply settles_of_total
  · intro s h
    unfold readName
    rw [member?_eq_some_iff.mpr h]
    dsimp only
    rw [lax.text]
    rfl
  · intro cause h
    unfold readName
    cases h with
    | missing habsent =>
      rw [member?_eq_none_iff.mpr habsent]
      rfl
    | notText hlast hj =>
      rw [member?_eq_some_iff.mpr hlast]
      dsimp only
      rw [lax.notText hj]
      rfl
    | broken hlast =>
      rw [member?_eq_some_iff.mpr hlast]
      dsimp only
      rw [lax.brokenText]
      rfl
  · cases hmember : Json.member? "name" members with
    | none => exact .inr ⟨_, .missing (member?_eq_none_iff.mp hmember)⟩
    | some j =>
      have hlast := member?_eq_some_iff.mp hmember
      cases j with
      | string s =>
        cases s with
        | whole s => exact .inl ⟨s, hlast⟩
        | broken points => exact .inr ⟨_, .broken hlast⟩
      | _ => exact .inr ⟨_, .notText hlast nofun⟩

omit lax [Validation] in
theorem ne_null_of_isNumber {x : Binary64} (h : j.IsNumber Numeric x) : j ≠ .null := by
  rintro rfl
  cases h

theorem readAmount_settles :
    Settles place "value" (readAmount place members) (IsAmount Numeric members) (AmountFault Numeric members) := by
  apply settles_of_total
  · intro x h
    cases h with
    | absent habsent =>
      unfold readAmount
      rw [member?_eq_none_iff.mpr habsent]
    | null hlast =>
      unfold readAmount
      rw [member?_eq_some_iff.mpr hlast]
    | number hlast hnumber hfinite =>
      rw [readAmount_some place (member?_eq_some_iff.mpr hlast) (ne_null_of_isNumber hnumber),
        lax.finiteNumber.mpr ⟨hnumber, hfinite⟩]
      rfl
  · rintro cause ⟨j, hlast, hnull, hrefused⟩
    rw [readAmount_some place (member?_eq_some_iff.mpr hlast) hnull, (lax.notFiniteNumber hnull).mpr hrefused]
    rfl
  · cases hmember : Json.member? "value" members with
    | none => exact .inl ⟨_, .absent (member?_eq_none_iff.mp hmember)⟩
    | some j =>
      have hlast := member?_eq_some_iff.mp hmember
      by_cases hnull : j = .null
      · rw [hnull] at hlast
        exact .inl ⟨_, .null hlast⟩
      · cases hread : Validation.finiteNumber j with
        | ok x =>
          obtain ⟨hnumber, hfinite⟩ := lax.finiteNumber.mp hread
          exact .inl ⟨_, .number hlast hnumber hfinite⟩
        | error cause => exact .inr ⟨cause, j, hlast, hnull, (lax.notFiniteNumber hnull).mp hread⟩

theorem isCommand_iff (place : Nat) :
    IsCommand Numeric j c ↔ ∃ line, readLine place j = .ok line ∧ line.toCommand = c := by
  constructor
  · rintro ⟨hname, hamount⟩
    refine ⟨_, Checked.both_eq_ok_iff.mpr ⟨_, _, ?_, ?_, rfl⟩, rfl⟩
    · exact (readName_settles lax).ok.mpr hname
    · exact (readAmount_settles lax).ok.mpr hamount
  · rintro ⟨line, hread, rfl⟩
    cases j with
    | object members =>
      obtain ⟨s, x, hname, hamount, rfl⟩ := Checked.both_eq_ok_iff.mp hread
      exact .object ((readName_settles lax).ok.mp hname) ((readAmount_settles lax).ok.mp hamount)
    | _ => cases hread

theorem itemIssues_iff : ItemIssues Numeric place j issues ↔ (readLine place j).issues = issues := by
  constructor
  · intro h
    cases h with
    | notObject hj =>
      cases j with
      | object members => exact absurd rfl (hj members)
      | _ => rfl
    | object name value =>
      rw [← (readName_settles lax).issues_iff.mp name, ← (readAmount_settles lax).issues_iff.mp value]
      exact Checked.issues_both _ _ _
  · rintro rfl
    cases j with
    | object members =>
      rw [readLine, Checked.issues_both]
      exact .object ((readName_settles lax).issues_iff.mpr rfl) ((readAmount_settles lax).issues_iff.mpr rfl)
    | _ => exact .notObject nofun

theorem forall₂_isCommand_iff (first : Nat) :
    List.Forall₂ (IsCommand Numeric) items commands ↔
      ∃ lines, readLines first items = .ok lines ∧ lines.map ScriptLine.toCommand = commands := by
  induction items generalizing first commands with
  | nil =>
    rw [List.forall₂_nil_left_iff, readLines]
    constructor
    · rintro rfl
      exact ⟨[], rfl, rfl⟩
    · rintro ⟨lines, hread, rfl⟩
      cases hread
      rfl
  | cons j items ih =>
    rw [readLines]
    constructor
    · intro h
      cases h with
      | cons hcommand hrest =>
        obtain ⟨line, hline, rfl⟩ := (isCommand_iff lax first).mp hcommand
        obtain ⟨lines, hlines, rfl⟩ := (ih (first + 1)).mp hrest
        exact ⟨line :: lines, Checked.both_eq_ok_iff.mpr ⟨line, lines, hline, hlines, rfl⟩, rfl⟩
    · rintro ⟨lines, hread, rfl⟩
      obtain ⟨line, rest, hline, hrest, rfl⟩ := Checked.both_eq_ok_iff.mp hread
      exact .cons ((isCommand_iff lax first).mpr ⟨line, hline, rfl⟩) ((ih (first + 1)).mpr ⟨rest, hrest, rfl⟩)

theorem itemsIssues_iff : ItemsIssues Numeric place items issues ↔ (readLines place items).issues = issues := by
  induction items generalizing place issues with
  | nil =>
    constructor
    · rintro ⟨⟩
      rfl
    · rintro rfl
      exact .nil place
  | cons j items ih =>
    rw [readLines, Checked.issues_both]
    constructor
    · intro h
      cases h with
      | cons hissues hmore => rw [(itemIssues_iff lax).mp hissues, ih.mp hmore]
    · rintro rfl
      exact .cons ((itemIssues_iff lax).mpr rfl) (ih.mpr rfl)

/-- Items that are refused are refused for something. -/
theorem readLines_ne_error_nil : readLines place items ≠ .error [] := by
  induction items generalizing place with
  | nil => exact nofun
  | cons j items ih =>
    refine Checked.both_ne_error_nil ?_ ih
    cases j with
    | object members =>
      exact Checked.both_ne_error_nil (readName_settles lax).ne_error_nil (readAmount_settles lax).ne_error_nil
    | _ => exact nofun

theorem parse_eq_error_iff : Script.parse bytes = .error issues ↔ ScriptIssues Numeric bytes issues := by
  unfold Script.parse
  constructor
  · intro h
    split at h
    · next j hj =>
      cases j with
      | array items =>
        have hissues : (readLines 0 items).issues = issues := by
          rw [show readLines 0 items = .error issues from h]
          rfl
        refine .items hj ((itemsIssues_iff lax).mpr hissues) ?_
        rintro rfl
        exact readLines_ne_error_nil lax h
      | _ =>
        cases h
        exact .notList hj nofun
    · next hnone =>
      cases h
      exact .notJson hnone
  · intro h
    cases h with
    | notJson hnone => rw [hnone]
    | @notList j hj hlist =>
      rw [hj]
      cases j with
      | array items => exact absurd rfl (hlist items)
      | _ => rfl
    | items hj hissues hne =>
      rw [hj]
      have hread := (itemsIssues_iff lax).mp hissues
      dsimp only
      rw [ofJson]
      cases hlines : readLines 0 _ with
      | ok lines => rw [hlines] at hread; exact absurd hread.symm hne
      | error others => rw [hlines] at hread; rw [← hread]; rfl

omit lax

theorem parse_eq_ok_iff {lines : List ScriptLine} :
    Script.parse bytes = .ok lines ↔
      ∃ items, Validation.strictJson? bytes = some (.array items) ∧ readLines 0 items = .ok lines := by
  unfold Script.parse
  constructor
  · intro h
    split at h
    · next j hj =>
      cases j with
      | array items => exact ⟨items, hj, h⟩
      | _ => cases h
    · cases h
  · rintro ⟨items, hj, hlines⟩
    rw [hj]
    exact hlines

end Lenient

/-- The scripts are the arrays of objects with a name and perhaps a finite value, and stand for their commands in order.
Bytes of any other kind are refused with everything that is wrong with them, item by item. -/
theorem load_iff (lax : Validation.IsLax Numeric) (bytes : List UInt8) :
    (∀ commands, load bytes = .ok commands ↔
      ∃ items, Validation.strictJson? bytes = some (.array items) ∧
        List.Forall₂ (IsCommand Numeric) items commands) ∧
    ∀ fault, load bytes = .error fault ↔ ∃ issues, fault = .script issues ∧ ScriptIssues Numeric bytes issues := by
  have hload : ∀ commands, load bytes = .ok commands ↔
      ∃ lines, Script.parse bytes = .ok lines ∧ lines.map ScriptLine.toCommand = commands := by
    intro commands
    unfold load
    cases Script.parse bytes <;> simp
  refine ⟨fun commands => ?_, fun fault => ?_⟩
  · rw [hload]
    constructor
    · rintro ⟨lines, hparse, hmap⟩
      obtain ⟨items, hj, hlines⟩ := parse_eq_ok_iff.mp hparse
      exact ⟨items, hj, (forall₂_isCommand_iff lax 0).mpr ⟨lines, hlines, hmap⟩⟩
    · rintro ⟨items, hj, hcommands⟩
      obtain ⟨lines, hlines, hmap⟩ := (forall₂_isCommand_iff lax 0).mp hcommands
      exact ⟨lines, parse_eq_ok_iff.mpr ⟨items, hj, hlines⟩, hmap⟩
  · simp only [← parse_eq_error_iff lax]
    unfold load
    cases Script.parse bytes <;> simp [eq_comm]

end Language

/-- A script of one command, which is named twice. -/
def namedTwice : List UInt8 :=
  Text.Utf8.encode "[\x7b\"name\": 1, \"value\": \" 1e1 \", \"x\": [], \"name\": \"MOVE\"\x7d]".toList

/-- An item with nothing right in it, and something that is no item. -/
def misnamed : List UInt8 := Text.Utf8.encode "[\x7b\"value\": \"ten\"\x7d, 3]".toList

open Standard

theorem load_namedTwice :
    (∃ items, Validation.strictJson? namedTwice = some (.array items) ∧
      List.Forall₂ (IsCommand Coerce.IsNumeric) items [⟨.text "MOVE", .float (.ofInt 10)⟩]) ∧
    ScriptIssues Coerce.IsNumeric misnamed
      [issue 0 "name" .missing, issue 0 "value" .notNumberText, ⟨[.index 1], .notObject⟩] := by
  have hparse : (Script.parse namedTwice).toOption = some [⟨"MOVE", some (.ofInt 10)⟩] := by decide +kernel
  have hissues : (Script.parse misnamed).issues =
      [issue 0 "name" .missing, issue 0 "value" .notNumberText, ⟨[.index 1], .notObject⟩] := by
    decide +kernel
  constructor
  · rw [← (load_iff Validation.isLax_standard namedTwice).1]
    unfold load
    rw [ok_of_toOption hparse]
    rfl
  · cases herror : Script.parse misnamed with
    | ok lines => rw [herror] at hissues; cases hissues
    | error issues =>
      rw [herror] at hissues
      have hload : load misnamed = .error (.script issues) := by
        unfold load
        rw [herror]
      obtain ⟨_, heq, hscript⟩ := ((load_iff Validation.isLax_standard misnamed).2 _).mp hload
      cases heq
      exact (show issues = _ from hissues) ▸ hscript

end Script

end TurtleGraphics
