import Mathlib.Tactic
import TurtleGraphics.Proofs.Json.Readings
import TurtleGraphics.Proofs.Schema.Validation
import TurtleGraphics.Proofs.Text.Utf8
import TurtleGraphics.Settings.Basic

/-! What settings hold once they are read. Whatever a field was read from, it can be stored: its integer is not too
long, its text is as reading leaves texts, and its heading is in range. -/

namespace TurtleGraphics

structure CanvasSettings.IsStorable (c : CanvasSettings) : Prop where
  width : (Number.int c.width).isWritable = true
  height : (Number.int c.height).isWritable = true
  background : Json.IsRead c.background
  ink : Json.IsRead c.ink
  lineWidth : (Number.int c.lineWidth).isWritable = true

structure StartSettings.IsStorable (s : StartSettings) : Prop where
  heading : Validate.inRange (.float s.heading) = true

structure PlotterSettings.IsStorable (p : PlotterSettings) : Prop where
  upAngle : (Number.int p.upAngle).isWritable = true
  downAngle : (Number.int p.downAngle).isWritable = true
  travelSpeed : (Number.int p.travelSpeed).isWritable = true
  drawSpeed : (Number.int p.drawSpeed).isWritable = true

/-- Settings that can be written, and that their readers take. Any number is fine for the fields that are binary64. -/
structure Settings.IsStorable (s : Settings) : Prop where
  canvas : s.canvas.IsStorable
  start : s.start.IsStorable
  plotter : s.plotter.IsStorable

theorem CanvasSettings.isStorable_standard : standard.IsStorable :=
  ⟨by decide, by decide, trivial, trivial, by decide⟩

theorem StartSettings.isStorable_standard : standard.IsStorable := ⟨by decide +kernel⟩

theorem PlotterSettings.isStorable_standard : standard.IsStorable := ⟨by decide, by decide, by decide, by decide⟩

namespace Settings

/-- A file with the bytes of a text holds what the text spells. -/
theorem load_encode [Platform] [Validation] (text : List Char) :
    load (Text.Utf8.encode text) =
      match Json.parse (.lenient Platform.jsonDepth) (Text.unifyLineEnds text) with
      | .ok j => ofJson j
      | .error defect => .error (.notJson defect) := by
  unfold load
  rw [Text.Utf8.decode_encode]
  dsimp only
  cases Json.parse (.lenient Platform.jsonDepth) (Text.unifyLineEnds text) with
  | ok j => rfl
  | error defect => rfl

section Fields

variable {α : Type} {P : α → Prop} {members : Members} {standard a : α} {d : Json.Dialect}

theorem mem_of_member? {name : String} {j : Json} (h : Json.member? name members = some j) :
    ∃ m ∈ members, m.2 = j := by
  obtain ⟨m, hm, rfl⟩ := Option.map_eq_some_iff.mp h
  exact ⟨m, List.mem_reverse.mp (List.mem_of_find?_eq_some hm), rfl⟩

/-- A field has what its standard value has and what its reader promises. -/
theorem of_field {owner name : String} {read : Json → Except IssueCause α} {room : Nat}
    (hmembers : ∀ m ∈ members, Json.Fits d room m.2) (hstandard : P standard)
    (hread : ∀ {j a}, Json.Fits d room j → read j = .ok a → P a) (h : field owner name members standard read = .ok a) :
    P a := by
  unfold field at h
  split at h
  · cases h
    exact hstandard
  · next j hj =>
    obtain ⟨m, hm, rfl⟩ := mem_of_member? hj
    exact hread (hmembers m hm) (mapError_eq_ok_iff.mp h)

theorem exists_members_fit {room : Nat} (h : Json.Fits d room (.object members)) :
    ∃ inner, ∀ m ∈ members, Json.Fits d inner m.2 := by
  cases h with
  | noMembers room => exact ⟨0, nofun⟩
  | object names fit => exact ⟨_, fit⟩

theorem of_readSection {name owner : String} {read : Members → Checked α} {room : Nat}
    (hmembers : ∀ m ∈ members, Json.Fits d room m.2) (hstandard : P standard)
    (hread : ∀ {inner room a}, (∀ m ∈ inner, Json.Fits d room m.2) → read inner = .ok a → P a)
    (h : readSection name owner members standard read = .ok a) : P a := by
  unfold readSection at h
  split at h
  · cases h
    exact hstandard
  · next inner hinner =>
    obtain ⟨m, hm, heq⟩ := mem_of_member? hinner
    obtain ⟨deeper, hfit⟩ := exists_members_fit (heq ▸ hmembers m hm)
    exact hread hfit h
  · cases h

end Fields

section Sections

variable [Validation] {members : Members}

theorem inRange_of_readHeading {j : Json} {x : Binary64} (h : readHeading j = .ok x) :
    Validate.inRange (.float x) = true := by
  obtain ⟨y, -, h⟩ := ok_of_bind_ok h
  obtain ⟨z, hz, h⟩ := ok_of_bind_ok h
  cases h
  unfold Validate.headingNumber at hz
  by_cases hrange : Validate.inRange (.float x) = true
  · exact hrange
  · rw [if_neg hrange] at hz
    cases hz

theorem isStorable_of_readStart {d : Json.Dialect} {room : Nat} (hmembers : ∀ m ∈ members, Json.Fits d room m.2)
    {s : StartSettings} (h : readStart members = .ok s) : s.IsStorable := by
  obtain ⟨_, pen, h₁, -, rfl⟩ := Checked.apply_ok h
  obtain ⟨_, heading, h₂, hheading, rfl⟩ := Checked.apply_ok h₁
  obtain ⟨x, y, -, -, rfl⟩ := Checked.both_ok h₂
  constructor
  exact of_field (P := fun x => Validate.inRange (.float x) = true) hmembers
    StartSettings.isStorable_standard.heading (fun _ => inRange_of_readHeading) hheading

theorem isStorable_start_of_ofMembers {d : Json.Dialect} {room : Nat}
    (hmembers : ∀ m ∈ members, Json.Fits d room m.2) {s : Settings} (h : ofMembers members = .ok s) :
    s.start.IsStorable := by
  obtain ⟨_, plotter, h₁, -, rfl⟩ := Checked.apply_ok h
  obtain ⟨canvas, start, -, hstart, rfl⟩ := Checked.both_ok h₁
  exact of_readSection hmembers StartSettings.isStorable_standard (fun hfit => isStorable_of_readStart hfit) hstart

theorem exists_members_of_load [Platform] {bytes : List UInt8} {s : Settings} (h : load bytes = .ok s) :
    ∃ members room, (∀ m ∈ members, Json.Fits (.lenient Platform.jsonDepth) room m.2) ∧ ofMembers members = .ok s := by
  unfold load at h
  split at h
  · cases h
  · split at h
    · cases h
    · next j hj =>
      cases j with
      | object members =>
        obtain ⟨room, hfit⟩ := exists_members_fit (Json.fits_of_parse hj)
        exact ⟨members, room, hfit, mapError_eq_ok_iff.mp h⟩
      | _ => cases h

/-- The start needs no more of the validating library: the heading is checked by the program itself. -/
theorem isStorable_start_of_load [Platform] {bytes : List UInt8} {s : Settings} (h : load bytes = .ok s) :
    s.start.IsStorable := by
  obtain ⟨members, room, hfit, hmembers⟩ := exists_members_of_load h
  exact isStorable_start_of_ofMembers hfit hmembers

variable (own : Validation.KeepsOwn) {depth room : Nat} (hmembers : ∀ m ∈ members, Json.Fits (.lenient depth) room m.2)

include own hmembers

theorem isWritable_of_field {owner name : String} {standard n : Int}
    (hstandard : (Number.int standard).isWritable = true)
    (h : field owner name members standard Validation.integer = .ok n) : (Number.int n).isWritable = true := by
  refine of_field (P := fun n => (Number.int n).isWritable = true) hmembers hstandard ?_ h
  intro j n hfits hread
  refine own.isWritable ?_ hread
  rintro m rfl
  cases hfits with
  | int _ short => exact decide_eq_true short

theorem isRead_of_field {owner name : String} {standard s : LooseText} (hstandard : Json.IsRead standard)
    (h : field owner name members standard Validation.looseText = .ok s) : Json.IsRead s := by
  refine of_field hmembers hstandard ?_ h
  intro j s hfits hread
  cases own.looseText.mp hread
  cases hfits with
  | string _ isRead => exact isRead

theorem isStorable_of_readCanvas {c : CanvasSettings} (h : readCanvas members = .ok c) : c.IsStorable := by
  have hstandard := CanvasSettings.isStorable_standard
  obtain ⟨_, lineWidth, h₁, hlineWidth, rfl⟩ := Checked.apply_ok h
  obtain ⟨_, ink, h₂, hink, rfl⟩ := Checked.apply_ok h₁
  obtain ⟨_, background, h₃, hbackground, rfl⟩ := Checked.apply_ok h₂
  obtain ⟨width, height, hwidth, hheight, rfl⟩ := Checked.both_ok h₃
  constructor
  · exact isWritable_of_field own hmembers hstandard.width hwidth
  · exact isWritable_of_field own hmembers hstandard.height hheight
  · exact isRead_of_field own hmembers hstandard.background hbackground
  · exact isRead_of_field own hmembers hstandard.ink hink
  · exact isWritable_of_field own hmembers hstandard.lineWidth hlineWidth

theorem isStorable_of_readPlotter {p : PlotterSettings} (h : readPlotter members = .ok p) : p.IsStorable := by
  have hstandard := PlotterSettings.isStorable_standard
  obtain ⟨_, drawSpeed, h₁, hdrawSpeed, rfl⟩ := Checked.apply_ok h
  obtain ⟨_, travelSpeed, h₂, htravelSpeed, rfl⟩ := Checked.apply_ok h₁
  obtain ⟨_, downAngle, h₃, hdownAngle, rfl⟩ := Checked.apply_ok h₂
  obtain ⟨mmPerPixel, upAngle, -, hupAngle, rfl⟩ := Checked.both_ok h₃
  constructor
  · exact isWritable_of_field own hmembers hstandard.upAngle hupAngle
  · exact isWritable_of_field own hmembers hstandard.downAngle hdownAngle
  · exact isWritable_of_field own hmembers hstandard.travelSpeed htravelSpeed
  · exact isWritable_of_field own hmembers hstandard.drawSpeed hdrawSpeed

theorem isStorable_of_ofMembers {s : Settings} (h : ofMembers members = .ok s) : s.IsStorable := by
  have hstart := isStorable_start_of_ofMembers hmembers h
  obtain ⟨_, plotter, h₁, hplotter, rfl⟩ := Checked.apply_ok h
  obtain ⟨canvas, start, hcanvas, -, rfl⟩ := Checked.both_ok h₁
  constructor
  · exact of_readSection hmembers CanvasSettings.isStorable_standard (fun hfit => isStorable_of_readCanvas own hfit)
      hcanvas
  · exact hstart
  · exact of_readSection hmembers PlotterSettings.isStorable_standard (fun hfit => isStorable_of_readPlotter own hfit)
      hplotter

omit hmembers

theorem isStorable_of_load [Platform] {bytes : List UInt8} {s : Settings} (h : load bytes = .ok s) : s.IsStorable := by
  obtain ⟨members, room, hfit, hmembers⟩ := exists_members_of_load h
  exact isStorable_of_ofMembers own hfit hmembers

end Sections

end Settings

end TurtleGraphics
