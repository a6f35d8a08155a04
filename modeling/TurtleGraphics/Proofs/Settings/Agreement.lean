import Mathlib.Tactic
import TurtleGraphics.Proofs.Json.Ascii
import TurtleGraphics.Proofs.Schema.Coerce
import TurtleGraphics.Proofs.Script.Fields
import TurtleGraphics.Proofs.Settings.Start
import TurtleGraphics.Proofs.Turtle.Acceptance
import TurtleGraphics.Standard

/-! Reading settings and making a turtle agree on headings and pens. What is read can always be made a turtle, but for
coordinates that are not finite, and no value that a turtle takes is reported when it is read. -/

namespace TurtleGraphics

namespace Validate

/-- A number and the binary64 number nearest to it are headings together. -/
theorem inRange_nearest (x : Number) : inRange (.float x.nearest) = inRange x := by
  cases x with
  | float x => rfl
  | int n =>
    by_cases hsmall : n.natAbs < Nat.pow 2 53
    · exact inRange_congr (Number.place?_nearest_of_small hsmall)
    · have hlarge : ¬inRange (.int n) = true := by
        intro h
        have := natAbs_le_of_inRange h
        have : 360 < Nat.pow 2 53 := by decide
        omega
      -- Rounding takes at most half of a number away.
      have hrounded : ¬inRange (.float (Number.int n).nearest) = true := by
        intro h
        obtain ⟨u, hu, hle⟩ := units_of_inRange h
        have hhalf : n.natAbs * unitsPerOne ≤ 720 * unitsPerOne := by
          have := Binary64.natAbs_le_of_ofInt hu
          omega
        have := Nat.le_of_mul_le_mul_right hhalf unitsPerOne_pos
        have : 720 < Nat.pow 2 53 := by decide
        omega
      rw [Bool.not_eq_true] at hlarge hrounded
      rw [hlarge, hrounded]

theorem place?_nearest {x : Number} (h : inRange x = true) : (Number.float x.nearest).place? = x.place? := by
  cases x with
  | float x => rfl
  | int n => exact Number.place?_nearest_of_small (Nat.lt_of_le_of_lt (natAbs_le_of_inRange h) (by decide))

end Validate

namespace Json

theorem IsLast.unique {name : String} {members : List (LooseText × Json)} {j k : Json} (hj : IsLast name members j)
    (hk : IsLast name members k) : j = k :=
  Option.some.inj ((member?_eq_some_iff.mpr hj).symm.trans (member?_eq_some_iff.mpr hk))

end Json

namespace Number

theorem eq_nearest_of_toBinary64? {x : Number} {y : Binary64} (h : x.toBinary64? = some y) : y = x.nearest := by
  cases x with
  | float x => cases h; rfl
  | int n =>
    change Binary64.ofInt? n = some y at h
    unfold Binary64.ofInt? at h
    split at h
    · exact (Option.some.inj h).symm
    · cases h

end Number

namespace Checked

variable {α β γ : Type} {a : Checked α} {b : Checked β} {path : List PathItem}

/-- There is an issue at a place. -/
def Blames (a : Checked α) (path : List PathItem) : Prop := ∃ issue ∈ a.issues, issue.path = path

theorem not_blames_ok (x : α) : ¬Blames (.ok x) path := nofun

theorem blames_single {issue : Issue} : Blames (.error [issue] : Checked α) path ↔ issue.path = path := by
  refine ⟨?_, fun hpath => ⟨issue, List.mem_cons_self, hpath⟩⟩
  rintro ⟨other, hother, hpath⟩
  rwa [List.mem_singleton.mp hother] at hpath

theorem blames_both {f : α → β → γ} : (both f a b).Blames path ↔ a.Blames path ∨ b.Blames path := by
  unfold Blames
  rw [issues_both]
  simp only [List.mem_append, or_and_right, exists_or]

theorem blames_apply {f : Checked (α → β)} : (apply f a).Blames path ↔ f.Blames path ∨ a.Blames path := blames_both

end Checked

namespace Settings

variable {α : Type} {members : Members} {standard : α} {bytes : List UInt8} {j : Json}

/-- A field is blamed at its own place only, for a value that its reader refuses. -/
theorem blames_field {owner name : String} {read : Json → Except IssueCause α} {path : List PathItem} :
    (field owner name members standard read).Blames path ↔
      path = [.name owner, .name name] ∧ ∃ j cause, Json.IsLast name members j ∧ read j = .error cause := by
  simp only [← Json.member?_eq_some_iff]
  unfold field
  cases Json.member? name members with
  | none => exact iff_of_false (Checked.not_blames_ok standard) nofun
  | some j =>
    dsimp only
    cases hread : read j with
    | ok a =>
      refine iff_of_false (Checked.not_blames_ok a) ?_
      rintro ⟨-, _, cause, ⟨⟩, hcause⟩
      cases hread.symm.trans hcause
    | error cause =>
      exact Checked.blames_single.trans ⟨fun hpath => ⟨hpath.symm, j, cause, rfl, hread⟩, fun h => h.1.symm⟩

/-- A section is blamed at the places of its fields if it is an object. -/
theorem blames_readSection {part owner name : String} {read : Members → Checked α} :
    (readSection part owner members standard read).Blames [.name part, .name name] ↔
      ∃ inner, Json.IsLast part members (.object inner) ∧ (read inner).Blames [.name part, .name name] := by
  simp only [← Json.member?_eq_some_iff]
  unfold readSection
  split
  · next hnone =>
    rw [hnone]
    exact iff_of_false (Checked.not_blames_ok standard) nofun
  · next inner hinner =>
    rw [hinner]
    exact ⟨fun h => ⟨inner, rfl, h⟩, by rintro ⟨_, ⟨⟩, h⟩; exact h⟩
  · next j hobject hj =>
    rw [hj]
    refine iff_of_false (mt Checked.blames_single.mp nofun) ?_
    rintro ⟨inner, hinner, -⟩
    exact hobject inner (Option.some.inj hinner)

/-- No section is blamed at the places of another one. -/
theorem not_blames_readSection {part other owner name : String} {read : Members → Checked α}
    (hread : ∀ inner, ¬(read inner).Blames [.name other, .name name]) :
    ¬(readSection part owner members standard read).Blames [.name other, .name name] := by
  unfold readSection
  split
  · exact Checked.not_blames_ok standard
  · exact hread _
  · exact mt Checked.blames_single.mp nofun

theorem blames_readStart_heading [Validation] {inner : Members} :
    (readStart inner).Blames [.name "start", .name "heading"] ↔
      ∃ j cause, Json.IsLast "heading" inner j ∧ readHeading j = .error cause := by
  simp [readStart, Checked.blames_apply, Checked.blames_both, blames_field]

theorem blames_readStart_pen [Validation] {inner : Members} :
    (readStart inner).Blames [.name "start", .name "pen"] ↔
      ∃ j cause, Json.IsLast "pen" inner j ∧ readPen j = .error cause := by
  simp [readStart, Checked.blames_apply, Checked.blames_both, blames_field]

/-- Only the section of the start is blamed for its fields. -/
theorem blames_ofMembers_start [Validation] {name : String} :
    (ofMembers members).Blames [.name "start", .name name] ↔
      ∃ inner, Json.IsLast "start" members (.object inner) ∧ (readStart inner).Blames [.name "start", .name name] := by
  have hcanvas : ∀ inner, ¬(readCanvas inner).Blames [.name "start", .name name] := by
    simp [readCanvas, Checked.blames_apply, Checked.blames_both, blames_field]
  have hplotter : ∀ inner, ¬(readPlotter inner).Blames [.name "start", .name name] := by
    simp [readPlotter, Checked.blames_apply, Checked.blames_both, blames_field]
  unfold ofMembers
  rw [Checked.blames_apply, Checked.blames_both, blames_readSection]
  rw [or_iff_left (not_blames_readSection hplotter), or_iff_right (not_blames_readSection hcanvas)]

section Values

variable [Validation]

theorem readHeading_of_anyNumber {x : Binary64} (h : Validation.anyNumber j = .ok x) :
    readHeading j =
      if Validate.inRange (.float x) then .ok x
      else .error (.rejected (Fault.domain (.headingOutOfRange (.float x))).message) := by
  unfold readHeading
  rw [h]
  change (do let _ ← validated (Validate.headingNumber (.float x)); return x) = _
  unfold Validate.headingNumber
  split
  · rfl
  · rfl

variable (own : Validation.KeepsOwn)

include own

/-- A number is taken for the binary64 number that it has. -/
theorem anyNumber_form {x : Number} {y : Binary64} :
    Validation.anyNumber (Script.numberForm x) = .ok y ↔ x.toBinary64? = some y := by
  cases x with
  | int n => exact own.anyNumber_int
  | float x =>
    change Validation.anyNumber (.float x) = .ok y ↔ some x = some y
    rw [own.anyNumber, Except.ok.injEq, Option.some.injEq]

theorem readHeading_form_of_inRange {x : Number} (h : Validate.inRange x = true) :
    readHeading (Script.numberForm x) = .ok x.nearest := by
  have hnumber := (anyNumber_form own).mpr (Number.isFinite_of_inRange h).toBinary64?
  rw [readHeading_of_anyNumber hnumber, Validate.inRange_nearest]
  exact if_pos h

theorem readHeading_form_of_not_inRange {x : Number} (h : ¬Validate.inRange x = true) :
    ∃ cause, readHeading (Script.numberForm x) = .error cause := by
  cases hnumber : Validation.anyNumber (Script.numberForm x) with
  | error cause =>
    unfold readHeading
    rw [hnumber]
    exact ⟨_, rfl⟩
  | ok y =>
    obtain rfl := Number.eq_nearest_of_toBinary64? ((anyNumber_form own).mp hnumber)
    rw [readHeading_of_anyNumber hnumber, Validate.inRange_nearest]
    exact ⟨_, if_neg h⟩

theorem readPen_string (text : LooseText) :
    readPen (.string text) = validated (Validate.pen (.ofLooseText text)) := by
  unfold readPen
  rw [own.looseText.mpr rfl]
  rfl

end Values

/-- A file is a JSON object whose section for the start gives a value under a name. -/
def GivesStart [Platform] (bytes : List UInt8) (name : String) (j : Json) : Prop :=
  ∃ text members inner, Text.Utf8.decode bytes = .ok text ∧
    Json.parse (.lenient Platform.jsonDepth) (Text.unifyLineEnds text) = .ok (.object members) ∧
    Json.IsLast "start" members (.object inner) ∧ Json.IsLast name inner j

/-- Reading a file fails with an issue at a place. -/
def Reports [Validation] [Platform] (bytes : List UInt8) (path : List PathItem) : Prop :=
  ∃ issues, load bytes = .error (.settings issues) ∧ ∃ issue ∈ issues, issue.path = path

theorem load_of_object [Platform] [Validation] {text : List Char} (hdecode : Text.Utf8.decode bytes = .ok text)
    (hparse : Json.parse (.lenient Platform.jsonDepth) (Text.unifyLineEnds text) = .ok (.object members)) :
    load bytes = (ofMembers members).mapError Fault.settings := by
  rw [Text.Utf8.decode_eq_ok_iff.mp hdecode, load_encode, hparse]
  rfl

theorem reports_of_object [Validation] [Platform] {path : List PathItem}
    (h : load bytes = (ofMembers members).mapError Fault.settings) :
    Reports bytes path ↔ (ofMembers members).Blames path := by
  unfold Reports
  rw [h]
  cases ofMembers members with
  | ok s => exact iff_of_false nofun (Checked.not_blames_ok s)
  | error issues => exact ⟨by rintro ⟨_, ⟨⟩, h⟩; exact h, fun h => ⟨issues, rfl, h⟩⟩

theorem field_of_isLast {owner name : String} {read : Json → Except IssueCause α} {a : α}
    (h : Json.IsLast name members j) (hfield : field owner name members standard read = .ok a) : read j = .ok a := by
  unfold field at hfield
  rw [Json.member?_eq_some_iff.mpr h] at hfield
  exact mapError_eq_ok_iff.mp hfield

theorem start_of_ofMembers [Validation] {s : Settings} {inner : Members} (h : ofMembers members = .ok s)
    (hstart : Json.IsLast "start" members (.object inner)) : readStart inner = .ok s.start := by
  obtain ⟨_, plotter, hfirst, -, rfl⟩ := Checked.apply_ok h
  obtain ⟨canvas, start, -, hsection, rfl⟩ := Checked.both_ok hfirst
  unfold readSection at hsection
  rw [Json.member?_eq_some_iff.mpr hstart] at hsection
  exact hsection

/-- A field of the start is reported for the value that the file gives, if its reader refuses that. -/
theorem reports_iff_of_gives [Validation] [Platform] {name : String} {read : Json → Except IssueCause α}
    (hread : ∀ inner, (readStart inner).Blames [.name "start", .name name] ↔
      ∃ j cause, Json.IsLast name inner j ∧ read j = .error cause)
    (h : GivesStart bytes name j) :
    Reports bytes [.name "start", .name name] ↔ ∃ cause, read j = .error cause := by
  obtain ⟨text, members, inner, hdecode, hparse, hstart, hlast⟩ := h
  rw [reports_of_object (load_of_object hdecode hparse), blames_ofMembers_start]
  simp only [hread]
  constructor
  · rintro ⟨_, hstart', k, cause, hlast', hcause⟩
    cases hstart'.unique hstart
    cases hlast'.unique hlast
    exact ⟨cause, hcause⟩
  · rintro ⟨cause, hcause⟩
    exact ⟨inner, hstart, j, cause, hlast, hcause⟩

theorem exists_readStart_of_gives [Validation] [Platform] {name : String} {s : Settings} (h : GivesStart bytes name j)
    (hs : load bytes = .ok s) : ∃ inner, Json.IsLast name inner j ∧ readStart inner = .ok s.start := by
  obtain ⟨text, members, inner, hdecode, hparse, hstart, hlast⟩ := h
  rw [load_of_object hdecode hparse, mapError_eq_ok_iff] at hs
  exact ⟨inner, hlast, start_of_ofMembers hs hstart⟩

theorem readHeading_of_gives [Validation] [Platform] {s : Settings} (h : GivesStart bytes "heading" j)
    (hs : load bytes = .ok s) :
    readHeading j = .ok s.start.heading := by
  obtain ⟨inner, hlast, hstart⟩ := exists_readStart_of_gives h hs
  obtain ⟨_, pen, hfirst, -, heq⟩ := Checked.apply_ok hstart
  obtain ⟨_, heading, hsecond, hheading, rfl⟩ := Checked.apply_ok hfirst
  obtain ⟨x, y, -, -, rfl⟩ := Checked.both_ok hsecond
  rw [← heq]
  exact field_of_isLast hlast hheading

theorem readPen_of_gives [Validation] [Platform] {s : Settings} (h : GivesStart bytes "pen" j)
    (hs : load bytes = .ok s) :
    readPen j = .ok s.start.pen := by
  obtain ⟨inner, hlast, hstart⟩ := exists_readStart_of_gives h hs
  obtain ⟨_, pen, hfirst, hpen, heq⟩ := Checked.apply_ok hstart
  obtain ⟨_, heading, hsecond, -, rfl⟩ := Checked.apply_ok hfirst
  obtain ⟨x, y, -, -, rfl⟩ := Checked.both_ok hsecond
  rw [← heq]
  exact field_of_isLast hlast hpen

/-- A number in a file is reported as a heading exactly if it is not one, and is kept by value. -/
theorem reports_heading_iff [Validation] [Platform] (own : Validation.KeepsOwn) {x : Number}
    (h : GivesStart bytes "heading" (Script.numberForm x)) :
    (Reports bytes [.name "start", .name "heading"] ↔ ∀ y, Validate.heading (.number x) ≠ .ok y) ∧
      ∀ s, load bytes = .ok s → (Number.float s.start.heading).place? = x.place? := by
  rw [reports_iff_of_gives (fun _ => blames_readStart_heading) h]
  by_cases hrange : Validate.inRange x = true
  · have hread := readHeading_form_of_inRange own hrange
    refine ⟨iff_of_false ?_ fun hne => hne x (Validate.heading_eq_ok_iff.mpr ⟨rfl, hrange⟩), ?_⟩
    · rintro ⟨cause, hcause⟩
      cases hread.symm.trans hcause
    · intro s hs
      have hkept := hread.symm.trans (readHeading_of_gives h hs)
      rw [← Except.ok.inj hkept]
      exact Validate.place?_nearest hrange
  · obtain ⟨cause, hcause⟩ := readHeading_form_of_not_inRange own hrange
    refine ⟨iff_of_true ⟨cause, hcause⟩ ?_, ?_⟩
    · intro y hy
      obtain ⟨⟨⟩, hin⟩ := Validate.heading_eq_ok_iff.mp hy
      exact hrange hin
    · intro s hs
      cases hcause.symm.trans (readHeading_of_gives h hs)

theorem reports_pen_iff [Validation] [Platform] (own : Validation.KeepsOwn) {text : LooseText}
    (h : GivesStart bytes "pen" (.string text)) :
    (Reports bytes [.name "start", .name "pen"] ↔ ∀ p, Validate.pen (.ofLooseText text) ≠ .ok p) ∧
      ∀ s, load bytes = .ok s → Validate.pen (.ofLooseText text) = .ok s.start.pen := by
  rw [reports_iff_of_gives (fun _ => blames_readStart_pen) h, readPen_string own]
  have hkept := fun s hs => readPen_of_gives (s := s) h hs
  simp only [readPen_string own] at hkept
  cases hpen : Validate.pen (.ofLooseText text) with
  | ok p =>
    rw [hpen] at hkept
    refine ⟨iff_of_false (by rintro ⟨_, ⟨⟩⟩) fun hne => hne p rfl, ?_⟩
    intro s hs
    cases hkept s hs
    rfl
  | error fault =>
    rw [hpen] at hkept
    refine ⟨iff_of_true ⟨_, rfl⟩ nofun, ?_⟩
    intro s hs
    cases hkept s hs

/-- Settings that a file holds have a heading in its range and one of the two pens, and they are made a turtle of just
these values unless a coordinate is not finite. No number that is a heading and no text that is a pen is reported. -/
theorem load_agrees [Platform] [Validation] (own : Validation.KeepsOwn) (bytes : List UInt8) :
    (∀ s, load bytes = .ok s →
      (∃ u, s.start.heading.units? = some u ∧ u.natAbs ≤ 360 * unitsPerOne) ∧
      (s.start.pen.text = "up" ∨ s.start.pen.text = "down") ∧
      s.start.turtle =
        if s.start.x.isFinite && s.start.y.isFinite then .ok s.start.placed
        else .error (.domain (.coordinatesNotFinite (.float s.start.x) (.float s.start.y)))) ∧
    (∀ x, GivesStart bytes "heading" (Script.numberForm x) →
      (Reports bytes [.name "start", .name "heading"] ↔ ∀ y, Validate.heading (.number x) ≠ .ok y) ∧
      ∀ s, load bytes = .ok s → (Number.float s.start.heading).place? = x.place?) ∧
    (∀ text, GivesStart bytes "pen" (.string text) →
      (Reports bytes [.name "start", .name "pen"] ↔ ∀ p, Validate.pen (.ofLooseText text) ≠ .ok p) ∧
      ∀ s, load bytes = .ok s → Validate.pen (.ofLooseText text) = .ok s.start.pen) := by
  refine ⟨?_, fun x => reports_heading_iff own, fun text => reports_pen_iff own⟩
  intro s hs
  have hrange := (isStorable_start_of_load hs).heading
  refine ⟨Validate.units_of_inRange hrange, ?_, StartSettings.turtle_eq hrange⟩
  cases s.start.pen with
  | up => exact .inl rfl
  | down => exact .inr rfl

/-- A start without an end to its first coordinate, at the edge of the headings. -/
def farStart : Members :=
  [(.whole "x", .float (.infinite false)), (.whole "heading", .int (-360)), (.whole "pen", .string (.whole "down"))]

def farMembers : Members := [(.whole "start", .object farStart)]

def farFile : List UInt8 := Text.Utf8.encode (Json.render (.ofIndent none) 0 (.object farMembers))

open Standard

theorem parse_farFile :
    ∃ text, Text.Utf8.decode farFile = .ok text ∧
      Json.parse (.lenient Platform.jsonDepth) (Text.unifyLineEnds text) = .ok (.object farMembers) := by
  have hfits : Json.Fits (.lenient Platform.jsonDepth) Platform.jsonDepth (.object farMembers) := by
    refine Json.fits_of_whole rfl (List.forall_mem_singleton.mpr (Json.fits_of_whole rfl ?_))
    simp only [farStart, List.forall_mem_cons, List.not_mem_nil, false_implies, implies_true, and_true]
    exact ⟨.float _ _, .int _ (by decide), .string _ trivial⟩
  refine ⟨_, Text.Utf8.decode_encode _, ?_⟩
  rw [Json.unifyLineEnds_render]
  exact Json.parse_render (.lenient Platform.jsonDepth) _ hfits

theorem load_farFile :
    GivesStart farFile "heading" (Script.numberForm (.int (-360))) ∧
      GivesStart farFile "pen" (.string (.whole "down")) ∧
      ¬Reports farFile [.name "start", .name "heading"] ∧ ¬Reports farFile [.name "start", .name "pen"] ∧
      ∃ s, load farFile = .ok s ∧ s.start.pen = .down ∧
        s.start.turtle = .error (.domain (.coordinatesNotFinite (.float s.start.x) (.float s.start.y))) := by
  obtain ⟨text, hdecode, hparse⟩ := parse_farFile
  have hgives : ∀ {name j}, Json.member? name farStart = some j → GivesStart farFile name j := fun hmember =>
    ⟨text, farMembers, farStart, hdecode, hparse, Json.member?_eq_some_iff.mp rfl, Json.member?_eq_some_iff.mp hmember⟩
  have hload : (load farFile).toOption.map (fun s => (s.start.x, s.start.pen)) = some (.infinite false, .down) := by
    rw [load_of_object hdecode hparse]
    decide +kernel
  obtain ⟨hturtle, hheading, hpen⟩ := load_agrees Validation.keepsOwn_standard farFile
  refine ⟨hgives rfl, hgives rfl, ?_, ?_, ?_⟩
  · rw [(hheading (.int (-360)) (hgives rfl)).1]
    exact fun hne => hne (.int (-360)) (Validate.heading_eq_ok_iff.mpr ⟨rfl, by decide +kernel⟩)
  · rw [(hpen (.whole "down") (hgives rfl)).1]
    exact fun hne => hne .down rfl
  · cases hs : load farFile with
    | error fault =>
      rw [hs] at hload
      cases hload
    | ok s =>
      rw [hs] at hload
      obtain ⟨hx, hdown⟩ := Prod.mk.inj (Option.some.inj hload)
      refine ⟨s, rfl, hdown, ?_⟩
      rw [(hturtle s hs).2.2, hx]
      rfl

end Settings

end TurtleGraphics
