import Mathlib.Tactic
import TurtleGraphics.Proofs.Json.Ascii
import TurtleGraphics.Proofs.Schema.Coerce
import TurtleGraphics.Proofs.Settings.Reading
import TurtleGraphics.Settings.Sheet
import TurtleGraphics.Standard

/-! Settings saved and loaded again. What is read of a file is written in one way, and that is read as the same
settings, field by field. -/

namespace TurtleGraphics

def CanvasSettings.members (c : CanvasSettings) : Settings.Members :=
  [(.whole "width", .int c.width), (.whole "height", .int c.height), (.whole "background", .string c.background),
    (.whole "ink", .string c.ink), (.whole "line_width", .int c.lineWidth)]

def StartSettings.members (s : StartSettings) : Settings.Members :=
  [(.whole "x", .float s.x), (.whole "y", .float s.y), (.whole "heading", .float s.heading),
    (.whole "pen", .string (.whole s.pen.text))]

def PlotterSettings.members (p : PlotterSettings) : Settings.Members :=
  [(.whole "mm_per_px", .float p.mmPerPixel), (.whole "up_angle", .int p.upAngle),
    (.whole "down_angle", .int p.downAngle), (.whole "travel_speed", .int p.travelSpeed),
    (.whole "draw_speed", .int p.drawSpeed)]

def Settings.members (s : Settings) : Members :=
  [(.whole "canvas", .object s.canvas.members), (.whole "start", .object s.start.members),
    (.whole "plotter", .object s.plotter.members)]

namespace Datum

/-- Numbers and texts are saved as they are. -/
def IsScalar : Datum → Prop
  | .number _ | .text _ | .brokenText _ => True
  | _ => False

theorem isScalar_ofLooseText (s : LooseText) : (ofLooseText s).IsScalar := by
  cases s <;> trivial

theorem IsScalar.expandPoints {d : Datum} (h : d.IsScalar) : d.expandPoints = .ok d := by
  cases d with
  | number x => rw [Datum.expandPoints] <;> exact nofun
  | text s => rw [Datum.expandPoints] <;> exact nofun
  | brokenText points => rw [Datum.expandPoints] <;> exact nofun
  | _ => cases h

theorem toJson_ofLooseText (s : LooseText) : (ofLooseText s).toJson = .ok (.string s) := by
  cases s with
  | whole s => rw [ofLooseText, toJson]
  | broken points => rw [ofLooseText, toJson]

theorem toJson_int {n : Int} (h : (Number.int n).isWritable = true) : (Datum.int n).toJson = .ok (.int n) := by
  rw [Datum.int, toJson]
  exact if_pos h

theorem toJson_float (x : Binary64) : (Datum.float x).toJson = .ok (.float x) := by
  rw [Datum.float, toJson]
  rfl

theorem nameJson_text (s : String) : nameJson (.text s) = .ok (.whole s) := rfl

end Datum

namespace Sheet

/-- A section of numbers and texts has no points to spell out. -/
theorem plainPart_of_scalars {s : SheetSection} (h : ∀ f ∈ s.fields, f.2.IsScalar) :
    plainPart (.fields s) = .ok (.fields s) := by
  have hfields : s.fields.mapM plainField = .ok s.fields := by
    apply mapM_ok_self
    intro f hf
    unfold plainField
    rw [(h f hf).expandPoints]
    rfl
  unfold plainPart
  dsimp only
  rw [hfields]
  rfl

end Sheet

namespace Settings

theorem plain_sheet (s : Settings) : s.sheet.plain = .ok s.sheet := by
  apply mapM_ok_self
  have hbackground := Datum.isScalar_ofLooseText s.canvas.background
  have hink := Datum.isScalar_ofLooseText s.canvas.ink
  have hpart : ∀ {name : String} {part : SheetSection}, (∀ f ∈ part.fields, f.2.IsScalar) →
      (Sheet.plainPart (.fields part)).map (name, ·) = .ok (name, .fields part) := by
    intro name part h
    rw [Sheet.plainPart_of_scalars h]
    rfl
  simp only [sheet, List.forall_mem_cons, List.not_mem_nil, false_implies, implies_true, and_true]
  refine ⟨hpart ?_, hpart ?_, hpart ?_⟩
  · simp only [canvasFields, List.forall_mem_cons, List.not_mem_nil, false_implies, implies_true, and_true]
    exact ⟨trivial, trivial, hbackground, hink, trivial⟩
  · simp only [startFields, List.forall_mem_cons, List.not_mem_nil, false_implies, implies_true, and_true]
    exact ⟨trivial, trivial, trivial, trivial⟩
  · simp only [plotterFields, List.forall_mem_cons, List.not_mem_nil, false_implies, implies_true, and_true]
    exact ⟨trivial, trivial, trivial, trivial, trivial⟩

section Storable

variable {s : Settings} (h : s.IsStorable)

include h

theorem toJson_sheet : s.sheet.toDatum.toJson = .ok (.object s.members) := by
  obtain ⟨⟨hwidth, hheight, -, -, hlineWidth⟩, -, ⟨hup, hdown, htravel, hdraw⟩⟩ := h
  simp only [sheet, Sheet.toDatum, Sheet.partDatum, canvasFields, startFields, plotterFields, List.map_cons,
    List.map_nil, Datum.toJson, Datum.entriesToJson, Datum.entryToJson, Datum.nameJson_text, Datum.toJson_int hwidth,
    Datum.toJson_int hheight, Datum.toJson_int hlineWidth, Datum.toJson_int hup, Datum.toJson_int hdown,
    Datum.toJson_int htravel, Datum.toJson_int hdraw, Datum.toJson_float, Datum.toJson_ofLooseText]
  rfl

theorem fits_members (depth room : Nat) : Json.Fits (.lenient depth) (room + 2) (.object s.members) := by
  obtain ⟨⟨hwidth, hheight, hbackground, hink, hlineWidth⟩, -, ⟨hup, hdown, htravel, hdraw⟩⟩ := h
  have hint : ∀ {n : Int}, (Number.int n).isWritable = true → Json.Fits (.lenient depth) room (.int n) :=
    fun hn => .int room (of_decide_eq_true hn)
  have hfloat : ∀ x : Binary64, Json.Fits (.lenient depth) room (.float x) := .float room
  have hcanvas : Json.Fits (.lenient depth) (room + 1) (.object s.canvas.members) := by
    apply Json.fits_of_whole rfl
    simp only [CanvasSettings.members, List.forall_mem_cons, List.not_mem_nil, false_implies, implies_true, and_true]
    exact ⟨hint hwidth, hint hheight, .string room hbackground, .string room hink, hint hlineWidth⟩
  have hstart : Json.Fits (.lenient depth) (room + 1) (.object s.start.members) := by
    apply Json.fits_of_whole rfl
    simp only [StartSettings.members, List.forall_mem_cons, List.not_mem_nil, false_implies, implies_true, and_true]
    exact ⟨hfloat _, hfloat _, hfloat _, .string room trivial⟩
  have hplotter : Json.Fits (.lenient depth) (room + 1) (.object s.plotter.members) := by
    apply Json.fits_of_whole rfl
    simp only [PlotterSettings.members, List.forall_mem_cons, List.not_mem_nil, false_implies, implies_true, and_true]
    exact ⟨hfloat _, hint hup, hint hdown, hint htravel, hint hdraw⟩
  apply Json.fits_of_whole rfl
  simp only [members, List.forall_mem_cons, List.not_mem_nil, false_implies, implies_true, and_true]
  exact ⟨hcanvas, hstart, hplotter⟩

theorem write_sheet : s.sheet.write = .ok (Json.write (.ofIndent Sheet.fileIndent) (.object s.members)) := by
  unfold Sheet.write
  rw [plain_sheet]
  change (s.sheet.toDatum.toJson).map _ = _
  rw [toJson_sheet h]
  rfl

end Storable

section Reading

variable [Validation] (own : Validation.KeepsOwn)

include own

theorem field_integer {owner name : String} {members : Members} {n standard : Int}
    (h : Json.member? name members = some (.int n)) : field owner name members standard Validation.integer = .ok n := by
  unfold field
  rw [h]
  exact mapError_eq_ok_iff.mpr (own.integer n)

theorem field_number {owner name : String} {members : Members} {x standard : Binary64}
    (h : Json.member? name members = some (.float x)) :
    field owner name members standard Validation.anyNumber = .ok x := by
  unfold field
  rw [h]
  exact mapError_eq_ok_iff.mpr (own.anyNumber x)

theorem field_text {owner name : String} {members : Members} {s standard : LooseText}
    (h : Json.member? name members = some (.string s)) :
    field owner name members standard Validation.looseText = .ok s := by
  unfold field
  rw [h]
  exact mapError_eq_ok_iff.mpr (own.looseText.mpr rfl)

theorem readCanvas_members (c : CanvasSettings) : readCanvas c.members = .ok c := by
  unfold readCanvas
  dsimp only
  rw [field_integer own (n := c.width) rfl, field_integer own (n := c.height) rfl,
    field_text own (s := c.background) rfl, field_text own (s := c.ink) rfl, field_integer own (n := c.lineWidth) rfl]
  rfl

theorem readPlotter_members (p : PlotterSettings) : readPlotter p.members = .ok p := by
  unfold readPlotter
  dsimp only
  rw [field_number own (x := p.mmPerPixel) rfl, field_integer own (n := p.upAngle) rfl,
    field_integer own (n := p.downAngle) rfl, field_integer own (n := p.travelSpeed) rfl,
    field_integer own (n := p.drawSpeed) rfl]
  rfl

/-- The validators of the heading and of the pen take what they gave. -/
theorem readStart_members {t : StartSettings} (h : t.IsStorable) : readStart t.members = .ok t := by
  have hheading : field "start" "heading" t.members StartSettings.standard.heading readHeading = .ok t.heading := by
    have hvalid : Validate.headingNumber (.float t.heading) = .ok (.float t.heading) := if_pos h.heading
    have hread : readHeading (.float t.heading) = .ok t.heading := by
      unfold readHeading
      rw [own.anyNumber]
      change (do let _ ← validated (Validate.headingNumber (.float t.heading)); return t.heading) = _
      rw [hvalid]
      rfl
    change (readHeading (.float t.heading)).mapError _ = _
    rw [hread]
    rfl
  have hpen : field "start" "pen" t.members StartSettings.standard.pen readPen = .ok t.pen := by
    have hread : readPen (.string (.whole t.pen.text)) = .ok t.pen := by
      unfold readPen
      rw [own.looseText.mpr rfl]
      cases t.pen <;> rfl
    change (readPen (.string (.whole t.pen.text))).mapError _ = _
    rw [hread]
    rfl
  unfold readStart
  dsimp only
  rw [hheading, hpen, field_number own (x := t.x) rfl, field_number own (x := t.y) rfl]
  rfl

theorem ofJson_members {s : Settings} (h : s.IsStorable) : ofJson (.object s.members) = .ok s := by
  have hstart := readStart_members own h.start
  change (ofMembers s.members).mapError Fault.settings = _
  have hread : ofMembers s.members = .ok s := by
    change Checked.apply (Checked.both Settings.mk (readCanvas s.canvas.members) (readStart s.start.members))
      (readPlotter s.plotter.members) = _
    rw [readCanvas_members own, hstart, readPlotter_members own]
    rfl
  rw [hread]
  rfl

theorem reload_members [Platform] {s : Settings} (h : s.IsStorable) (layout : Json.Layout) :
    Sheet.reload (Json.write layout (.object s.members)) = .ok s := by
  obtain ⟨room, hroom⟩ := Nat.exists_eq_add_of_le' Platform.jsonDepth_ge
  have hfits : Json.Fits (.lenient Platform.jsonDepth) Platform.jsonDepth (.object s.members) := by
    have := fits_members h Platform.jsonDepth room
    rwa [← hroom] at this
  have hparse := Json.parse_render (.lenient Platform.jsonDepth) layout hfits
  unfold Sheet.reload Json.write
  rw [String.toList_ofList, load_encode, Json.unifyLineEnds_render, hparse]
  exact ofJson_members own h

end Reading

/-- Settings that a file holds are saved whole, whatever was there before. The saved text is read as the same settings,
and these are saved as the same text. -/
theorem save_load_fixed [Platform] [Validation] (own : Validation.KeepsOwn) {bytes : List UInt8} {s : Settings}
    (h : load bytes = .ok s) :
    ∃ text, (∀ old, s.sheet.saveOver old = .done text.toList) ∧ Sheet.reload text = .ok s ∧
      ∀ again, Sheet.reload text = .ok again → ∀ old, again.sheet.saveOver old = .done text.toList := by
  have hstorable := isStorable_of_load own h
  have hsave := Sheet.saveOver_of_write (write_sheet hstorable)
  have hreload := reload_members own hstorable (.ofIndent Sheet.fileIndent)
  refine ⟨_, hsave, hreload, ?_⟩
  intro again hagain
  cases hreload.symm.trans hagain
  exact hsave

/-- Settings with texts for numbers, a truth value, names that are not known, and half of a surrogate pair. -/
def oddSettings : List UInt8 :=
  Text.Utf8.encode ("\x7b\"canvas\": \x7b\"width\": \" 0640 \", \"height\": true, \"ink\": \"\\ud800x\"\x7d, " ++
    "\"start\": \x7b\"x\": NaN, \"y\": -0.0, \"heading\": \"1e2\", \"z\": 1\x7d, \"extra\": []\x7d").toList

open Standard

theorem save_load_oddSettings :
    ∃ s, load oddSettings = .ok s ∧ s.canvas.width = 640 ∧ s.start.x = .notANumber ∧
      ∃ text, (∀ old, s.sheet.saveOver old = .done text.toList) ∧ Sheet.reload text = .ok s := by
  have hload : (load oddSettings).toOption.map (fun s => (s.canvas.width, s.start.x)) = some (640, .notANumber) := by
    decide +kernel
  cases hs : load oddSettings with
  | error fault =>
    rw [hs] at hload
    cases hload
  | ok s =>
    rw [hs] at hload
    obtain ⟨hwidth, hx⟩ := Prod.mk.inj (Option.some.inj hload)
    obtain ⟨text, hsave, hreload, -⟩ := save_load_fixed Validation.keepsOwn_standard hs
    exact ⟨s, rfl, hwidth, hx, text, hsave, hreload⟩

end Settings

end TurtleGraphics
