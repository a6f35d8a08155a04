import Mathlib.Tactic
import TurtleGraphics.Proofs.Plotter.Tracing

/-! Whole drawings. The text of a drawing reads back as a program that traces the recorded paths and keeps to the rules
of the pen. -/

namespace TurtleGraphics.Plotter

variable {s : PlotterSettings}

theorem lineFeed_not_mem_canvasRemark (s : Settings) : '\n' ∉ canvasRemark s := by
  have hwidth := (IsWord.int s.canvas.width).lineFeed
  have hheight := (IsWord.int s.canvas.height).lineFeed
  have hsize := (IsWord.shortest s.plotter.mmPerPixel).lineFeed
  have hfirst : '\n' ∉ "turtlecore canvas ".toList := by decide
  have hunit : '\n' ∉ "px @ ".toList := by decide
  have hlast : '\n' ∉ " mm/px".toList := by decide
  unfold canvasRemark
  generalize "turtlecore canvas ".toList = first at hfirst
  generalize "px @ ".toList = unit at hunit
  generalize " mm/px".toList = last at hlast
  simp [hwidth, hheight, hsize, hfirst, hunit, hlast]

theorem isReadable_header (s : Settings) {comment : String} (h : '\n' ∉ comment.toList) :
    ∀ line ∈ header s comment, line.IsReadable := by
  intro line hline
  unfold header at hline
  rcases List.mem_append.mp hline with hline | hline
  · split at hline
    · cases hline
    · rw [List.mem_singleton.mp hline]
      exact h
  · simp only [List.mem_cons, List.not_mem_nil, or_false] at hline
    rcases hline with rfl | rfl | rfl | rfl | rfl
    · exact lineFeed_not_mem_canvasRemark s
    · exact @isReadable_note .millimetres trivial _ (by decide)
    · exact @isReadable_note .absolute trivial _ (by decide)
    · exact isReadable_raisePen s.plotter
    · exact @isReadable_note .home trivial _ (by decide)

theorem isReadable_footer (s : PlotterSettings) : ∀ line ∈ footer s, line.IsReadable := by
  intro line hline
  have zero : IsWord ['0'] := .of_isNumeric (.zeros 1)
  simp only [footer, List.mem_cons, List.not_mem_nil, or_false] at hline
  rcases hline with rfl | rfl | rfl
  · exact isReadable_raisePen s
  · exact @isReadable_note (.travel ['0'] ['0'] s.travelSpeed) ⟨zero, zero⟩ _ (by decide)
  · exact @isReadable_note .motorsOff trivial _ (by decide)

theorem isReadable_framed {s : Settings} {comment : String} {body : Program} (hcomment : '\n' ∉ comment.toList)
    (hbody : ∀ line ∈ body, line.IsReadable) :
    ∀ line ∈ header s comment ++ body ++ footer s.plotter, line.IsReadable := by
  rw [List.forall_mem_append, List.forall_mem_append]
  exact ⟨⟨isReadable_header s hcomment, hbody⟩, isReadable_footer s.plotter⟩

/-- A drawing is read as it was written, when the comment is of one line. -/
theorem read?_framed {s : Settings} {comment : String} {body : Program} (hcomment : '\n' ∉ comment.toList)
    (hbody : ∀ line ∈ body, line.IsReadable) :
    Program.read? (Program.text (header s comment ++ body ++ footer s.plotter)).toList =
      some (header s comment ++ body ++ footer s.plotter) := by
  unfold Program.text
  rw [String.toList_ofList]
  exact Program.read?_render (by simp [footer]) (isReadable_framed hcomment hbody)

theorem instructions_header (s : Settings) (comment : String) :
    (header s comment).instructions = [.millimetres, .absolute, .servo s.plotter.upAngle, .home] := by
  unfold header
  rw [Program.instructions_append]
  split
  · rfl
  · rfl

/-- A header raises the pen before the machine goes home. -/
theorem run_header (s : Settings) (comment : String) :
    ∃ m, Machine.start.run (penAngles s.plotter) (header s comment).instructions = some m ∧ m.Rests [] := by
  have hraise : Machine.start.step (penAngles s.plotter) (.servo s.plotter.upAngle) =
      some { Machine.start with pen := some .up } := if_pos rfl
  refine ⟨{ Machine.start with pen := some .up }, ?_, rfl, rfl, rfl⟩
  rw [instructions_header, Machine.run, Machine.step, Option.bind_some, Machine.run, Machine.step, Option.bind_some,
    Machine.run, hraise]
  rfl

theorem run_footer (s : PlotterSettings) {m : Machine} {traced : List (List Spot)} (h : m.Rests traced) :
    ∃ m', m.run (penAngles s) (footer s).instructions = some m' ∧ m'.Rests traced ∧
      m'.spot = some (['0'], ['0']) := by
  have hraise : m.step (penAngles s) (.servo s.upAngle) = some m := by
    have hsame : { m with pen := some .up } = m := by rw [← h.pen]
    simp [Machine.step, penAngles, Machine.raise, h.pen, hsame]
  have htravel : m.step (penAngles s) (.travel ['0'] ['0'] s.travelSpeed) =
      some { m with spot := some (['0'], ['0']) } := if_pos h.pen
  have hoff : Machine.step (penAngles s) { m with spot := some (['0'], ['0']) } .motorsOff =
      some { m with spot := some (['0'], ['0']) } := if_pos h.pen
  have hinstructions : (footer s).instructions =
      [.servo s.upAngle, .travel ['0'] ['0'] s.travelSpeed, .motorsOff] := rfl
  refine ⟨{ m with spot := some (['0'], ['0']) }, ?_, ⟨h.pen, h.trail, h.traced⟩, rfl⟩
  rw [hinstructions, Machine.run, hraise, Option.bind_some, Machine.run, htravel, Option.bind_some, Machine.run, hoff]
  rfl

theorem mapM_emit_ok_iff {lines printed : Program} :
    lines.mapM emit = .ok printed ↔ (∀ line ∈ lines, line.isWritable = true) ∧ printed = lines := by
  constructor
  · intro h
    have hall := ok_of_mapM_ok h
    clear h
    induction hall with
    | nil => exact ⟨nofun, rfl⟩
    | cons hline _ ih =>
      obtain ⟨hwritable, rfl⟩ := emit_ok_iff.mp hline
      obtain ⟨hrest, rfl⟩ := ih
      exact ⟨List.forall_mem_cons.mpr ⟨hwritable, hrest⟩, rfl⟩
  · rintro ⟨h, rfl⟩
    exact mapM_ok_self fun line hline => emit_ok_iff.mpr ⟨h line hline, rfl⟩

/-- Whether the integers around the paths can be written. -/
def isFramePrintable (s : Settings) : Bool :=
  (Number.int s.canvas.width).isWritable && (Number.int s.canvas.height).isWritable &&
    (Number.int s.plotter.upAngle).isWritable && (Number.int s.plotter.travelSpeed).isWritable

def isPathPrintable (s : PlotterSettings) : Bool :=
  (Number.int s.travelSpeed).isWritable && (Number.int s.downAngle).isWritable &&
    (Number.int s.drawSpeed).isWritable && (Number.int s.upAngle).isWritable

theorem forall_header_isWritable_iff {s : Settings} {comment : String} :
    (∀ line ∈ header s comment, line.isWritable = true) ↔ (Number.int s.plotter.upAngle).isWritable = true := by
  unfold header
  rw [List.forall_mem_append]
  split <;> simp [Line.isWritable, raisePen, Instruction.isWritable]

theorem opening_ok_iff {s : Settings} {comment : String} {lines : Program} :
    opening s comment = .ok lines ↔
      ((Number.int s.canvas.width).isWritable = true ∧ (Number.int s.canvas.height).isWritable = true ∧
        (Number.int s.plotter.upAngle).isWritable = true) ∧ lines = header s comment := by
  unfold opening
  split
  · next h =>
    rw [Bool.and_eq_true] at h
    rw [mapM_emit_ok_iff, forall_header_isWritable_iff]
    simp [h.1, h.2]
  · next h =>
    rw [Bool.and_eq_true] at h
    exact ⟨nofun, fun h' => absurd ⟨h'.1.1, h'.1.2.1⟩ h⟩

theorem mapM_footer_ok_iff {s : PlotterSettings} {lines : Program} :
    (footer s).mapM emit = .ok lines ↔
      ((Number.int s.upAngle).isWritable = true ∧ (Number.int s.travelSpeed).isWritable = true) ∧
        lines = footer s := by
  rw [mapM_emit_ok_iff]
  simp [footer, raisePen, Line.isWritable, Instruction.isWritable]

theorem drawing_ok_iff {s : Settings} {comment : String} {paths : List Polyline} {p : Program} :
    drawing s comment paths = .ok p ↔
      isFramePrintable s = true ∧ ∃ bodies, paths.mapM (pathLines s) = .ok bodies ∧
        p = header s comment ++ bodies.flatten ++ footer s.plotter := by
  simp only [isFramePrintable, Bool.and_eq_true]
  constructor
  · intro h
    obtain ⟨start, hstart, h⟩ := ok_of_bind_ok h
    obtain ⟨bodies, hbodies, h⟩ := ok_of_bind_ok h
    obtain ⟨closing, hclosing, h⟩ := ok_of_bind_ok h
    cases h
    obtain ⟨⟨hwidth, hheight, hup⟩, rfl⟩ := opening_ok_iff.mp hstart
    obtain ⟨⟨-, htravel⟩, rfl⟩ := mapM_footer_ok_iff.mp hclosing
    exact ⟨⟨⟨⟨hwidth, hheight⟩, hup⟩, htravel⟩, bodies, hbodies, rfl⟩
  · rintro ⟨⟨⟨⟨hwidth, hheight⟩, hup⟩, htravel⟩, bodies, hbodies, rfl⟩
    unfold drawing
    have hstart := (@opening_ok_iff s comment _).mpr ⟨⟨hwidth, hheight, hup⟩, rfl⟩
    rw [hstart, hbodies, mapM_footer_ok_iff.mpr ⟨⟨hup, htravel⟩, rfl⟩]
    rfl

theorem drawing_filter {s : Settings} {comment : String} {paths : List Polyline} {p : Program}
    (h : drawing s comment paths = .ok p) : drawing s comment (paths.filter isDrawable) = .ok p := by
  obtain ⟨hframe, bodies, hbodies, rfl⟩ := drawing_ok_iff.mp h
  have hfilter : ∃ drawn, (paths.filter isDrawable).mapM (pathLines s) = .ok drawn ∧
      drawn.flatten = bodies.flatten := by
    have hall := ok_of_mapM_ok hbodies
    clear h hbodies
    induction hall with
    | nil => exact ⟨[], rfl, rfl⟩
    | @cons path lines paths bodies hlines _ ih =>
      obtain ⟨drawn, hdrawn, hflatten⟩ := ih
      rcases pathLines_ok hlines with ⟨hdrawable, rfl⟩ | ⟨start, stops, hdrawable, -, -⟩
      · refine ⟨drawn, ?_, hflatten⟩
        rw [List.filter_cons_of_neg (by simp [hdrawable])]
        exact hdrawn
      · refine ⟨lines :: drawn, ?_, ?_⟩
        · rw [List.filter_cons_of_pos hdrawable, List.mapM_cons, hlines, hdrawn]
          rfl
        · rw [List.flatten_cons, List.flatten_cons, hflatten]
  obtain ⟨drawn, hdrawn, hflatten⟩ := hfilter
  rw [← hflatten]
  exact drawing_ok_iff.mpr ⟨hframe, drawn, hdrawn, rfl⟩

/-- A point has a place on the machine when no number on the way to it is too large for a binary64 number. -/
def hasPlace (s : Settings) (p : Point) : Bool :=
  p.x.toBinary64?.isSome && (((Number.int s.canvas.height).sub? p.y).bind Number.toBinary64?).isSome

theorem exists_scaled_iff {x : Number} {scale : Binary64} :
    (∃ y, scaled x scale = .ok y) ↔ x.toBinary64?.isSome = true := by
  unfold scaled Motion.binary64
  cases x.toBinary64? with
  | none => simp [Except.map]
  | some b => simp [Except.map]

theorem elevation_ok_iff {height : Int} {y up : Number} :
    elevation height y = .ok up ↔ (Number.int height).sub? y = some up := by
  unfold elevation
  cases (Number.int height).sub? y with
  | none => simp
  | some d => simp

theorem toMachine_ofPoint (s : Settings) (p : Point) :
    toMachine s (.ofPoint p) =
      scaled p.x s.plotter.mmPerPixel >>= fun x =>
        elevation s.canvas.height p.y >>= fun up =>
          scaled up s.plotter.mmPerPixel >>= fun y => .ok ⟨x, y⟩ := rfl

theorem exists_toMachine_iff {s : Settings} {p : Point} :
    (∃ place, toMachine s (.ofPoint p) = .ok place) ↔ hasPlace s p = true := by
  rw [toMachine_ofPoint, hasPlace, Bool.and_eq_true, ← @exists_scaled_iff p.x s.plotter.mmPerPixel]
  constructor
  · rintro ⟨place, h⟩
    obtain ⟨x, hx, h⟩ := ok_of_bind_ok h
    obtain ⟨up, hup, h⟩ := ok_of_bind_ok h
    obtain ⟨y, hy, -⟩ := ok_of_bind_ok h
    refine ⟨⟨x, hx⟩, ?_⟩
    rw [elevation_ok_iff.mp hup]
    exact exists_scaled_iff.mp ⟨y, hy⟩
  · rintro ⟨⟨x, hx⟩, hup⟩
    cases h : (Number.int s.canvas.height).sub? p.y with
    | none => simp [h] at hup
    | some up =>
      rw [h] at hup
      obtain ⟨y, hy⟩ := (@exists_scaled_iff up s.plotter.mmPerPixel).mpr hup
      refine ⟨⟨x, y⟩, ?_⟩
      rw [hx, elevation_ok_iff.mpr h]
      change (scaled up s.plotter.mmPerPixel >>= _) = _
      rw [hy]
      rfl

theorem exists_stopAt_iff {s : Settings} {m : Mark} :
    (∃ line, stopAt s m = .ok line) ↔
      (Number.int s.plotter.drawSpeed).isWritable = true ∧ ∃ place, toMachine s m = .ok place := by
  constructor
  · rintro ⟨line, h⟩
    obtain ⟨place, hplace, h⟩ := ok_of_bind_ok h
    exact ⟨(emit_ok_iff.mp h).1, place, hplace⟩
  · rintro ⟨hspeed, place, hplace⟩
    refine ⟨drawTo s.plotter place, ?_⟩
    unfold stopAt
    rw [hplace]
    exact emit_ok_iff.mpr ⟨hspeed, rfl⟩

theorem exists_pathLines_iff {s : Settings} {path : Polyline} :
    (∃ lines, pathLines s path = .ok lines) ↔
      (isDrawable path = true →
        isPathPrintable s.plotter = true ∧ ∀ m ∈ path, ∃ place, toMachine s m = .ok place) := by
  match path with
  | [] => exact iff_of_true ⟨[], rfl⟩ nofun
  | [m] => exact iff_of_true ⟨[], rfl⟩ nofun
  | first :: second :: rest =>
    have hdrawable : isDrawable (first :: second :: rest) = true := by simp [isDrawable]
    rw [forall_prop_of_true hdrawable, List.forall_mem_cons]
    simp only [isPathPrintable, Bool.and_eq_true]
    constructor
    · rintro ⟨lines, h⟩
      obtain ⟨start, hstart, h⟩ := ok_of_bind_ok h
      obtain ⟨travel, htravel, h⟩ := ok_of_bind_ok h
      obtain ⟨lower, hlower, h⟩ := ok_of_bind_ok h
      obtain ⟨draws, hdraws, h⟩ := ok_of_bind_ok h
      obtain ⟨raise, hraise, -⟩ := ok_of_bind_ok h
      have hstops := exists_mapM_ok_iff.mp ⟨draws, hdraws⟩
      have hsecond := exists_stopAt_iff.mp (hstops second List.mem_cons_self)
      refine ⟨⟨⟨⟨(emit_ok_iff.mp htravel).1, (emit_ok_iff.mp hlower).1⟩, hsecond.1⟩, (emit_ok_iff.mp hraise).1⟩,
        ⟨start, hstart⟩, ?_⟩
      intro m hm
      exact (exists_stopAt_iff.mp (hstops m hm)).2
    · rintro ⟨⟨⟨⟨htravel, hdown⟩, hdraw⟩, hup⟩, ⟨start, hstart⟩, hrest⟩
      obtain ⟨draws, hdraws⟩ := (@exists_mapM_ok_iff _ _ _ (stopAt s) _).mpr
        fun m hm => exists_stopAt_iff.mpr ⟨hdraw, hrest m hm⟩
      refine ⟨travelTo s.plotter start :: lowerPen s.plotter :: (draws ++ [raisePen s.plotter]), ?_⟩
      have htravelTo : emit (travelTo s.plotter start) = .ok (travelTo s.plotter start) :=
        emit_ok_iff.mpr ⟨htravel, rfl⟩
      have hlower : emit (lowerPen s.plotter) = .ok (lowerPen s.plotter) := emit_ok_iff.mpr ⟨hdown, rfl⟩
      have hraise : emit (raisePen s.plotter) = .ok (raisePen s.plotter) := emit_ok_iff.mpr ⟨hup, rfl⟩
      simp only [pathLines, hstart, htravelTo, hlower, hdraws, hraise, bind, Except.bind, pure, Except.pure]

theorem exists_drawing_iff {s : Settings} {comment : String} {paths : List Polyline} :
    (∃ program, drawing s comment paths = .ok program) ↔
      isFramePrintable s = true ∧ ∀ path ∈ paths, isDrawable path = true →
        isPathPrintable s.plotter = true ∧ ∀ m ∈ path, ∃ place, toMachine s m = .ok place := by
  have hpaths : (∀ path ∈ paths, isDrawable path = true →
        isPathPrintable s.plotter = true ∧ ∀ m ∈ path, ∃ place, toMachine s m = .ok place) ↔
      ∃ bodies, paths.mapM (pathLines s) = .ok bodies := by
    rw [exists_mapM_ok_iff]
    exact forall₂_congr fun path _ => exists_pathLines_iff.symm
  rw [hpaths]
  constructor
  · rintro ⟨program, h⟩
    obtain ⟨hframe, bodies, hbodies, -⟩ := drawing_ok_iff.mp h
    exact ⟨hframe, bodies, hbodies⟩
  · rintro ⟨hframe, bodies, hbodies⟩
    exact ⟨_, drawing_ok_iff.mpr ⟨hframe, bodies, hbodies, rfl⟩⟩

theorem exists_drawingText_iff {s : Settings} {comment : String} {paths : List Polyline} :
    (∃ text, drawingText s comment paths = .ok text) ↔
      isFramePrintable s = true ∧ ∀ path ∈ paths, isDrawable path = true →
        isPathPrintable s.plotter = true ∧ ∀ m ∈ path, ∃ place, toMachine s m = .ok place := by
  rw [← @exists_drawing_iff s comment]
  constructor
  · rintro ⟨text, h⟩
    obtain ⟨program, hprogram, -⟩ := ok_of_map_ok h
    exact ⟨program, hprogram⟩
  · rintro ⟨program, h⟩
    unfold drawingText
    rw [h]
    exact ⟨_, rfl⟩

/-- What the text of a drawing is read as: a program that the machine accepts as a whole. It traces the drawable paths,
with one drawn line for each of their segments, and parks with the pen up. -/
theorem read_drawingText {s : Settings} {comment text : String} {paths : List Polyline}
    (hangles : s.plotter.upAngle ≠ s.plotter.downAngle) (hcomment : '\n' ∉ comment.toList)
    (h : drawingText s comment paths = .ok text) :
    ∃ program m, Program.read? text.toList = some program ∧
      Machine.start.run (penAngles s.plotter) program.instructions = some m ∧
      (paths.filter isDrawable).mapM (written s) = .ok m.traced ∧
      m.pen = some .up ∧ m.spot = some (['0'], ['0']) ∧
      program.instructions.countP Instruction.isDraw =
        ((paths.filter isDrawable).map fun path => path.segments.length).sum := by
  obtain ⟨program, hprogram, rfl⟩ := ok_of_map_ok h
  obtain ⟨-, bodies, hbodies, rfl⟩ := drawing_ok_iff.mp hprogram
  -- Header, paths and footer run one behind the other, each with the pen up where the last one ends.
  have hdraws := draws_bodies hangles hbodies
  obtain ⟨traced, htraced, htraces⟩ := hdraws.traces
  obtain ⟨m₁, hheader, hm₁⟩ := run_header s comment
  obtain ⟨m₂, hbody, hm₂⟩ := htraces hm₁
  obtain ⟨m₃, hfooter, hm₃, hspot⟩ := run_footer s.plotter hm₂
  rw [List.nil_append] at hm₃
  refine ⟨header s comment ++ bodies.flatten ++ footer s.plotter, m₃, read?_framed hcomment hdraws.readable, ?_, ?_,
    hm₃.pen, hspot, ?_⟩
  · rw [Program.instructions_append, Program.instructions_append, Machine.run_append, Machine.run_append, hheader,
      Option.bind_some, hbody, Option.bind_some, hfooter]
  · rw [htraced, hm₃.traced]
  · have hframe : (header s comment).instructions.countP Instruction.isDraw = 0 := by
      rw [instructions_header]
      rfl
    have hpark : (footer s.plotter).instructions.countP Instruction.isDraw = 0 := rfl
    rw [Program.instructions_append, Program.instructions_append, List.countP_append, List.countP_append, hframe,
      hpark, hdraws.count]
    simp

def polylines (paths : List (List Point)) : List Polyline := paths.map (List.map Mark.ofPoint)

/-- A drawing has a text exactly when its integers can be written and no number of a path of two points or more is too
large. The text is read as a program that keeps to the rules of the pen from start to end. Between lowering and raising
the pen it traces those paths, in order and with every point as it is written, with one drawn line for each segment.
Shorter paths leave no line. -/
theorem drawing_traces_paths (s : Settings) (comment : String) (paths : List (List Point))
    (hangles : s.plotter.upAngle ≠ s.plotter.downAngle) (hcomment : '\n' ∉ comment.toList) :
    ((∃ text, drawingText s comment (polylines paths) = .ok text) ↔
      isFramePrintable s = true ∧ ∀ path ∈ paths, 2 ≤ path.length →
        isPathPrintable s.plotter = true ∧ ∀ p ∈ path, hasPlace s p = true) ∧
    ∀ text, drawingText s comment (polylines paths) = .ok text →
      drawingText s comment ((polylines paths).filter isDrawable) = .ok text ∧
      ∃ program m, Program.read? text.toList = some program ∧
        Machine.start.run (penAngles s.plotter) program.instructions = some m ∧
        ((polylines paths).filter isDrawable).mapM (written s) = .ok m.traced ∧
        m.pen = some .up ∧ m.spot = some (['0'], ['0']) ∧
        program.instructions.countP Instruction.isDraw =
          (((polylines paths).filter isDrawable).map fun path => path.segments.length).sum := by
  refine ⟨?_, ?_⟩
  · rw [exists_drawingText_iff]
    simp only [polylines, List.forall_mem_map, isDrawable, List.length_map, decide_eq_true_eq, exists_toMachine_iff]
  · intro text h
    obtain ⟨program, hprogram, htext⟩ := ok_of_map_ok h
    refine ⟨?_, read_drawingText hangles hcomment h⟩
    unfold drawingText
    rw [drawing_filter hprogram, ← htext]
    rfl

/-- An angle, a lone point and an empty path. -/
def cornerPaths : List (List Point) :=
  [[⟨.int 0, .int 0⟩, ⟨.int 10, .int 0⟩, ⟨.int 10, .float (.ofRatio false unitsPerOne 2)⟩], [⟨.int 5, .int 5⟩], []]

theorem drawing_traces_corner :
    ∃ text program m, drawingText .standard "corner" (polylines cornerPaths) = .ok text ∧
      Program.read? text.toList = some program ∧
      Machine.start.run (penAngles PlotterSettings.standard) program.instructions = some m ∧
      m.traced = [[("0.00".toList, "300.00".toList), ("5.00".toList, "300.00".toList),
        ("5.00".toList, "299.75".toList)]] ∧
      program.instructions.countP Instruction.isDraw = 2 := by
  have hangles : Settings.standard.plotter.upAngle ≠ Settings.standard.plotter.downAngle := by decide
  have hcomment : '\n' ∉ "corner".toList := by decide
  obtain ⟨hiff, hread⟩ := drawing_traces_paths .standard "corner" cornerPaths hangles hcomment
  have hprintable : isFramePrintable .standard = true ∧ isPathPrintable .standard = true := by decide +kernel
  have hplaces : ∀ path ∈ cornerPaths, 2 ≤ path.length → ∀ p ∈ path, hasPlace .standard p = true := by
    decide +kernel
  obtain ⟨text, htext⟩ := hiff.mpr
    ⟨hprintable.1, fun path hpath hlength => ⟨hprintable.2, hplaces path hpath hlength⟩⟩
  obtain ⟨-, program, m, hprogram, hrun, htraced, -, -, hcount⟩ := hread text htext
  refine ⟨text, program, m, htext, hprogram, hrun, ?_, hcount⟩
  have hspots : (((polylines cornerPaths).filter isDrawable).mapM (written .standard)).toOption =
      some [[("0.00".toList, "300.00".toList), ("5.00".toList, "300.00".toList),
        ("5.00".toList, "299.75".toList)]] := by
    decide +kernel
  rw [htraced] at hspots
  exact Option.some.inj hspots

end TurtleGraphics.Plotter
