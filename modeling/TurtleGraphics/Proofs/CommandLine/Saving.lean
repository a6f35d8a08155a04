import Mathlib.Tactic
import TurtleGraphics.Proofs.CommandLine.Answers
import TurtleGraphics.Proofs.Plotter.Drawing
import TurtleGraphics.Proofs.Script.Faults
import TurtleGraphics.Proofs.Session.Transparency

/-! What a run saves. Whether it comes to its end or stops at a command, the plotter program is made of the commands
before that, and of nothing else. -/

namespace TurtleGraphics

namespace Datum

/-- A datum that is near is an integer of few digits, or a binary64 number. -/
theorem IsNear.exists_number {d : Datum} (h : d.IsNear) :
    ∃ x, d.number? = some x ∧ ((∃ n : Int, x = .int n ∧ n.natAbs ≤ 100000) ∨ ∃ b, x = .float b) := by
  obtain ⟨u, hu, hle⟩ := h
  obtain ⟨x, hx, hplace⟩ := Option.bind_eq_some_iff.mp hu
  refine ⟨x, hx, ?_⟩
  cases x with
  | float b => exact .inr ⟨b, rfl⟩
  | int n =>
    cases hplace
    rw [Int.natAbs_mul, Int.natAbs_natCast] at hle
    exact .inl ⟨n, rfl, Nat.le_of_mul_le_mul_right hle unitsPerOne_pos⟩

end Datum

namespace Plotter

/-- Integers of a few more bits than a side of a canvas can be scaled. -/
theorem exists_scaled_int {n : Int} (h : n.natAbs ≤ 4294967296) (scale : Binary64) :
    ∃ y, scaled (.int n) scale = .ok y := by
  have hfinite := Number.isFinite_of_small (Nat.lt_of_le_of_lt h (by decide))
  rw [exists_scaled_iff, hfinite.toBinary64?]
  rfl

theorem exists_scaled_float (b scale : Binary64) : ∃ y, scaled (.float b) scale = .ok y := exists_scaled_iff.mpr rfl

/-- On a canvas whose height has 32 bits, every mark that is near has a place. -/
theorem exists_toMachine_of_isNear {s : Settings} {m : Mark} (hheight : s.canvas.height.natAbs ≤ 2147483648)
    (h : m.IsNear) : ∃ place, toMachine s m = .ok place := by
  obtain ⟨x, hx, hxcases⟩ := h.x.exists_number
  obtain ⟨y, hy, hycases⟩ := h.y.exists_number
  have hfactor : Motion.factor m.x = .ok x := by
    unfold Motion.factor
    rw [hx]
  have hsubtrahend : subtrahend m.y = .ok y := by
    unfold subtrahend
    rw [hy]
  have hright : ∃ right, scaled x s.plotter.mmPerPixel = .ok right := by
    rcases hxcases with ⟨n, rfl, hn⟩ | ⟨b, rfl⟩
    · exact exists_scaled_int (Nat.le_trans hn (by decide)) _
    · exact exists_scaled_float b _
  have hup : ∃ up, elevation s.canvas.height y = .ok up ∧ ∃ above, scaled up s.plotter.mmPerPixel = .ok above := by
    rcases hycases with ⟨n, rfl, hn⟩ | ⟨b, rfl⟩
    · have hdifference : (s.canvas.height - n).natAbs ≤ 4294967296 := by
        calc (s.canvas.height - n).natAbs ≤ s.canvas.height.natAbs + n.natAbs := Int.natAbs_sub_le ..
          _ ≤ 2147483648 + 100000 := Nat.add_le_add hheight hn
          _ ≤ 4294967296 := by decide
      exact ⟨.int (s.canvas.height - n), rfl, exists_scaled_int hdifference _⟩
    · have hfinite := Number.isFinite_of_small (Nat.lt_of_le_of_lt hheight (by decide))
      refine ⟨.float ((Number.int s.canvas.height).nearest.sub b), elevation_ok_iff.mpr ?_, exists_scaled_float _ _⟩
      rw [Number.sub?, Number.combine?, hfinite.toBinary64?]
      · rfl
      · nofun
  obtain ⟨right, hright⟩ := hright
  obtain ⟨up, hup, above, habove⟩ := hup
  refine ⟨⟨right, above⟩, ?_⟩
  unfold toMachine
  simp only [hfactor, hsubtrahend, hright, hup, habove, bind, Except.bind, pure, Except.pure]

/-- Paths of marks that are near have a program, under settings that can be stored. -/
theorem exists_drawingText_of_isNear {s : Settings} {r : Recorder} (comment : String) (hs : s.IsStorable)
    (hheight : s.canvas.height.natAbs < 2147483648) (h : ∀ m ∈ r.marks, m.IsNear) :
    ∃ text, drawingText s comment r.paths = .ok text := by
  have hframe : isFramePrintable s = true := by
    simp only [isFramePrintable, hs.canvas.width, hs.canvas.height, hs.plotter.upAngle, hs.plotter.travelSpeed,
      Bool.and_self]
  have hpath : isPathPrintable s.plotter = true := by
    simp only [isPathPrintable, hs.plotter.travelSpeed, hs.plotter.downAngle, hs.plotter.drawSpeed, hs.plotter.upAngle,
      Bool.and_self]
  refine exists_drawingText_iff.mpr ⟨hframe, fun path hmem _ => ⟨hpath, fun m hm => ?_⟩⟩
  exact exists_toMachine_of_isNear (Nat.le_of_lt hheight) (h m (List.mem_flatten.mpr ⟨path, hmem, hm⟩))

end Plotter

theorem Raster.drawn_raster (q : Raster) (cs : List SurfaceCall) : ∃ q', (Surface.raster q).drawn cs = .raster q' := by
  induction cs generalizing q with
  | nil => exact ⟨q, rfl⟩
  | cons c cs ih =>
    rw [Surface.drawn_cons]
    cases c with
    | moveTo m => exact ih (q.moveTo m)
    | lineTo m => exact ih (q.lineTo m)
    | stroke => exact ih q.stroke.1

namespace Program

theorem endingOf_of_domain {settings : Option NamedFile} {fault : Fault} (h : fault.kind = .domain) :
    endingOf settings fault = .refused fault.message := by
  unfold endingOf ending
  rw [h]

section Saves

variable {s : Settings} {commands : List Command}

theorem save_program {tree : FileTree} {p : Path} {d : Drawing} {text : String} (hwritable : tree.obstacle? p = none)
    (htext : Plotter.drawingText s "" d.recorder.paths = .ok text) :
    Saving.save tree s ⟨none, some p⟩ d = ⟨[.writeText p text, Saving.savedLine p], .ok ()⟩ := by
  have hsave : Saving.saveProgram tree s d.recorder.paths p = ⟨[.writeText p text, Saving.savedLine p], .ok ()⟩ := by
    unfold Saving.saveProgram
    rw [htext, hwritable]
    rfl
  change (Activity.ofExcept (.ok ()) >>= fun _ => Saving.saveProgram tree s d.recorder.paths p) = _
  rw [hsave]
  rfl

variable [Platform]

/-- Where the run on a recorder alone stops: what the recorder holds is what the completed commands drew. -/
theorem committed_cases {r : Recorder} {t : Turtle}
    (h : (Command.run commands t (.recorder .empty)).surface = .recorder r) :
    ∃ t', Command.run (commands.take (Command.completed commands t (.recorder .empty))) t (.recorder .empty) =
        ⟨.ok t', .recorder r⟩ ∧
      ((Command.completed commands t (.recorder .empty) = commands.length ∧
          (Command.run commands t (.recorder .empty)).result = .ok t') ∨
        ∃ c fault, commands[Command.completed commands t (.recorder .empty)]? = some c ∧
          (c.execute t' (.recorder r)).result = .error fault ∧
          (Command.run commands t (.recorder .empty)).result = .error fault) := by
  obtain ⟨t', s', htake, hcases⟩ := Command.completed_cases commands t (.recorder .empty)
  obtain ⟨-, cs, hdrawn⟩ := Command.makes_run _ htake
  have honly : s'.onlyRecorders = true := hdrawn ▸ Surface.onlyRecorders_drawn rfl cs
  have hsurface : s' = .recorder r := by
    rw [← h]
    rcases hcases with ⟨-, hrun⟩ | ⟨c, -, hrun, fault, hfault⟩
    · rw [hrun]
    · rw [hrun, c.atomic_execute.surface_of_error honly hfault]
  rw [hsurface] at htake hcases
  refine ⟨t', htake, ?_⟩
  rcases hcases with ⟨hall, hrun⟩ | ⟨c, hc, hrun, fault, hfault⟩
  · exact .inl ⟨hall, by rw [hrun]⟩
  · exact .inr ⟨c, fault, hc, hfault, by rw [hrun, hfault]⟩

variable [Imaging]

/-- Settings under which the lines of commands can be painted: a start on the plane, a canvas that the library which
paints makes, an ink that it accepts, and lines of width one with all ends near. -/
structure Paints (s : Settings) (commands : List Command) : Prop where
  x : s.start.x.isFinite = true
  y : s.start.y.isFinite = true
  canvas : ∃ blank, Imaging.blank s.canvas.width s.canvas.height s.canvas.background = .ok blank
  ink : Imaging.Accepts s.canvas.ink
  lineWidth : s.canvas.lineWidth = 1
  near : ∀ m ∈ (Command.run commands s.start.placed (.recorder .empty)).surface.kept, m.IsNear

/-- On the surfaces of a drawing a run ends as on a recorder alone, which is the one that the drawing is left with. -/
theorem Paints.run_drawing (h : Paints s commands) :
    ∃ d, blankDrawing s.canvas = .ok d ∧ ∃ d' : Drawing, Command.run commands s.start.placed d.surface =
        ⟨(Command.run commands s.start.placed (.recorder .empty)).result, d'.surface⟩ ∧
      (Command.run commands s.start.placed (.recorder .empty)).surface = .recorder d'.recorder := by
  obtain ⟨blank, hblank⟩ := h.canvas
  obtain ⟨q, hq⟩ : ∃ q, Raster.make s.canvas.width s.canvas.height s.canvas.background s.canvas.ink 1 = .ok q := by
    unfold Raster.make
    rw [hblank]
    exact ⟨_, rfl⟩
  have hdrawing : blankDrawing s.canvas = .ok ⟨q, .empty⟩ := by
    unfold blankDrawing
    rw [h.lineWidth, hq]
    rfl
  refine ⟨⟨q, .empty⟩, hdrawing, ?_⟩
  have hfresh : (Drawing.mk q .empty).surface.IsFresh := by
    refine .fanOut ?_
    simp only [List.forall_mem_cons, List.not_mem_nil, false_implies, implies_true, and_true]
    exact ⟨.raster hq h.ink, .recorder⟩
  obtain ⟨cs, result, hsends⟩ := (Command.composed_run commands).surfaceBlind s.start.placed
  have hrecorder := hsends (.recorder .empty) (Surface.takes_of_onlyRecorders rfl cs)
  have htakes : (Drawing.mk q .empty).surface.Takes cs := by
    apply Surface.takes_of_isFresh hfresh
    have hnear := h.near
    rw [hrecorder] at hnear
    exact hnear
  have hboth := hsends _ htakes
  obtain ⟨q', hq'⟩ := Raster.drawn_raster q cs
  refine ⟨⟨q', Recorder.empty.takeAll cs⟩, ?_, ?_⟩
  · rw [hboth, hrecorder, Drawing.surface, Surface.drawn_fanOut (Surface.takes_fanOut.mp htakes)]
    simp only [List.map_cons, List.map_nil, hq', Recorder.drawn_recorder]
    rfl
  · rw [hrecorder, Recorder.drawn_recorder]

variable {tree : FileTree} {arguments : List String} {script : NamedFile} {settings : Option NamedFile}
  {program : String}

variable [Validation]

theorem Paints.turtle_start (h : Paints s commands) (hs : settingsOf settings = .ok s) :
    s.start.turtle = .ok s.start.placed := by
  rw [StartSettings.turtle_eq (inRange_of_settingsOf hs), h.x, h.y]
  rfl

variable (own : Validation.KeepsOwn)

include own

omit [Imaging] in
theorem isStorable_of_settingsOf (h : settingsOf settings = .ok s) : s.IsStorable := by
  cases settings with
  | none =>
    cases h
    exact ⟨CanvasSettings.isStorable_standard, StartSettings.isStorable_standard, PlotterSettings.isStorable_standard⟩
  | some file => exact Settings.isStorable_of_load own h

/-- What a run leaves on a recorder has a program. -/
theorem Paints.exists_drawingText (h : Paints s commands) (bounds : Imaging.BoundsSides)
    (hs : settingsOf settings = .ok s) {r : Recorder}
    (hr : (Command.run commands s.start.placed (.recorder .empty)).surface = .recorder r) :
    ∃ text, Plotter.drawingText s "" r.paths = .ok text := by
  obtain ⟨blank, hblank⟩ := h.canvas
  refine Plotter.exists_drawingText_of_isNear "" (isStorable_of_settingsOf own hs) (bounds hblank).2 ?_
  intro m hm
  apply h.near
  rw [hr]
  exact List.mem_append_left _ hm

/-- The program that a run saves is that of a recorder which got the completed commands and no others. It is saved in
any case. The last turtle is described when all commands are completed, and else the fault of the next one is said. -/
theorem respond_saves_completed (bounds : Imaging.BoundsSides)
    (h : Asks tree arguments script settings none (some program))
    (hscript : Script.load script.bytes = .ok commands) (hs : settingsOf settings = .ok s) (hpaints : Paints s commands)
    (hwritable : tree.obstacle? (.ofString program) = none) :
    ∃ r t text, Command.run (commands.take (Command.completed commands s.start.placed (.recorder .empty)))
        s.start.placed (.recorder .empty) = ⟨.ok t, .recorder r⟩ ∧
      Plotter.drawingText s "" r.paths = .ok text ∧
      ((Command.completed commands s.start.placed (.recorder .empty) = commands.length ∧
          (respond tree arguments).deeds =
            [.writeText (.ofString program) text, Saving.savedLine (.ofString program), .say t.describe] ∧
          (respond tree arguments).exitCode = 0) ∨
        ∃ c fault, commands[Command.completed commands s.start.placed (.recorder .empty)]? = some c ∧
          (c.execute t (.recorder r)).result = .error fault ∧
          (respond tree arguments).deeds =
            [.writeText (.ofString program) text, Saving.savedLine (.ofString program)] ∧
          (respond tree arguments).exitCode = 1 ∧
          (respond tree arguments).errorText? = some ("Error: " ++ Report.plain fault.message)) := by
  obtain ⟨hdeeds, hending⟩ := respond_of_asks h
  dsimp only [Option.map_none, Option.map_some] at hdeeds hending
  have hstart := hpaints.turtle_start hs
  obtain ⟨d, hd, d', hrun, hrecorder⟩ := hpaints.run_drawing
  obtain ⟨t, htake, hstops⟩ := committed_cases hrecorder
  obtain ⟨text, htext⟩ := hpaints.exists_drawingText own bounds hs hrecorder
  obtain ⟨hsaved, hresult⟩ := draw_of_run hd hstart hrun (save_program hwritable htext)
  dsimp only at hresult
  have hanswer := answer_of_draw tree ⟨none, some (.ofString program)⟩ hscript hs
  rw [hsaved] at hanswer
  refine ⟨d'.recorder, t, text, htake, htext, ?_⟩
  rcases hstops with ⟨hall, hok⟩ | ⟨c, fault, hc, hfault, herror⟩
  · rw [hresult, hok] at hanswer
    exact .inl ⟨hall, hdeeds.trans hanswer.1, Report.exitCode_of_success (hending.trans hanswer.2)⟩
  · obtain ⟨hkind, -⟩ := Command.overreaches_of_run (Script.isRead_of_load hscript) (Validate.sound_of_turtle hstart)
      rfl herror
    rw [hresult, herror] at hanswer
    have hrefused := hending.trans (hanswer.2.trans (endingOf_of_domain hkind))
    exact .inr ⟨c, fault, hc, hfault, hdeeds.trans hanswer.1, Report.exitCode_of_refused hrefused,
      Report.errorText?_of_refused hrefused⟩

end Saves

/-- A line is drawn, and the second turn leaves the range of headings. -/
def strayLines : List ScriptLine :=
  [⟨"PEN DOWN", none⟩, ⟨"MOVE", some (.ofInt 10)⟩, ⟨"TURN", some (.ofInt 270)⟩, ⟨"TURN", some (.ofInt 1)⟩,
    ⟨"MOVE", some (.ofInt 10)⟩]

def strayScript : NamedFile :=
  ⟨"s.json", Text.Utf8.encode ("[\x7b\"name\": \"PEN DOWN\"\x7d, \x7b\"name\": \"MOVE\", \"value\": 10\x7d, " ++
    "\x7b\"name\": \"TURN\", \"value\": 270\x7d, \x7b\"name\": \"TURN\", \"value\": \"1\"\x7d, " ++
    "\x7b\"name\": \"MOVE\", \"value\": 10\x7d]").toList⟩

def strayCommands : List Command := strayLines.map ScriptLine.toCommand

def strayTree : FileTree := ⟨[(strayScript.path, strayScript.bytes)], []⟩

open Standard

theorem load_strayScript : Script.load strayScript.bytes = .ok strayCommands := by
  have hparse : Script.parse strayScript.bytes = .ok strayLines := by
    apply ok_of_toOption
    decide +kernel
  exact Script.load_eq_ok_iff.mpr ⟨strayLines, hparse, rfl⟩

theorem paints_strayCommands : Paints .standard strayCommands where
  x := by decide +kernel
  y := by decide +kernel
  canvas := ⟨.blank 800 600 .white, by rfl⟩
  ink := Painter.accepts (show Colour.ofName (.whole "black") = .ok .black by rfl)
  lineWidth := rfl
  near := by decide +kernel

theorem respond_saves_stray :
    Asks strayTree ["run", "--gcode", "o.txt", "s.json"] strayScript none none (some "o.txt") ∧
    Script.load strayScript.bytes = .ok strayCommands ∧ settingsOf none = .ok .standard ∧
    Paints .standard strayCommands ∧ strayTree.obstacle? (.ofString "o.txt") = none ∧
    ∃ r t text c fault, Command.run (strayCommands.take 3) StartSettings.standard.placed (.recorder .empty) =
        ⟨.ok t, .recorder r⟩ ∧
      Plotter.drawingText .standard "" r.paths = .ok text ∧ strayCommands[3]? = some c ∧
      (c.execute t (.recorder r)).result = .error fault ∧
      (respond strayTree ["run", "--gcode", "o.txt", "s.json"]).deeds =
        [.writeText (.ofString "o.txt") text, Saving.savedLine (.ofString "o.txt")] ∧
      (respond strayTree ["run", "--gcode", "o.txt", "s.json"]).exitCode = 1 ∧
      (respond strayTree ["run", "--gcode", "o.txt", "s.json"]).errorText? =
        some ("Error: " ++ Report.plain fault.message) := by
  have hasks : Asks strayTree ["run", "--gcode", "o.txt", "s.json"] strayScript none none (some "o.txt") :=
    ⟨⟨false, by decide +kernel⟩, ⟨by decide +kernel, by decide +kernel⟩, nofun⟩
  have hwritable : strayTree.obstacle? (.ofString "o.txt") = none := by
    rw [← Option.isNone_iff_eq_none]
    decide +kernel
  have hthree : Command.completed strayCommands StartSettings.standard.placed (.recorder .empty) = 3 := by
    decide +kernel
  have hstart : Settings.standard.start.placed = StartSettings.standard.placed := rfl
  obtain ⟨r, t, text, htake, htext, hstops⟩ :=
    respond_saves_completed Validation.keepsOwn_standard Painter.boundsSides hasks load_strayScript rfl
      paints_strayCommands hwritable
  rw [hstart, hthree] at htake hstops
  refine ⟨hasks, load_strayScript, rfl, paints_strayCommands, hwritable, r, t, text, ?_⟩
  rcases hstops with ⟨hall, -⟩ | ⟨c, fault, hends⟩
  · cases hall
  · exact ⟨c, fault, htake, htext, hends⟩

end Program

end TurtleGraphics
