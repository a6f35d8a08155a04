import Mathlib.Tactic
import TurtleGraphics.Proofs.CommandLine.Answers
import TurtleGraphics.Proofs.Script.Faults
import TurtleGraphics.Standard

/-! How a run ends that saves nothing. Bytes that are no script, settings with a wrong field, a start off the plane and
commands that ask too much are reported. Settings that are no JSON object, a canvas that cannot be made and lines that
cannot be painted end the run with nothing said. -/

namespace TurtleGraphics

namespace Fault

/-- The kinds of fault that the program has a report for. -/
def IsReported (fault : Fault) : Prop :=
  fault.kind = .domain ∨ fault.kind = .script ∨ fault.kind = .validation

theorem not_isReported {fault : Fault} (h : fault.kind.isOwn = false) : ¬fault.IsReported := by
  rintro (hkind | hkind | hkind)
  all_goals
    rw [hkind] at h
    cases h

end Fault

theorem Settings.load_error [Platform] [Validation] {bytes : List UInt8} {fault : Fault}
    (h : load bytes = .error fault) :
    (∃ issues, fault = .settings issues) ∨ (∃ defect, fault = .notUtf8 defect) ∨ (∃ cause, fault = .notJson cause) ∨
      ∃ j, fault = .notMapping j := by
  unfold load at h
  split at h
  · cases h; exact .inr (.inl ⟨_, rfl⟩)
  · split at h
    · cases h; exact .inr (.inr (.inl ⟨_, rfl⟩))
    · unfold ofJson at h
      split at h
      · unfold Except.mapError at h
        split at h
        · cases h; exact .inl ⟨_, rfl⟩
        · cases h
      · cases h; exact .inr (.inr (.inr ⟨_, rfl⟩))

namespace Program

theorem endingOf_of_isReported (settings : Option NamedFile) {fault : Fault} (h : fault.IsReported) :
    ∃ message, endingOf settings fault = .refused message := by
  unfold endingOf ending
  rcases h with h | h | h
  · exact ⟨_, by rw [h]⟩
  · exact ⟨_, by rw [h]⟩
  · exact ⟨_, by rw [h]⟩

theorem endingOf_of_not_isReported (settings : Option NamedFile) {fault : Fault} (h : ¬fault.IsReported) :
    endingOf settings fault = .failed fault := by
  unfold endingOf ending
  split
  · exact absurd (.inl ‹_›) h
  · exact absurd (.inr (.inl ‹_›)) h
  · exact absurd (.inr (.inr ‹_›)) h
  · rfl

section Runs

variable [Imaging]

/-- No canvas is made exactly when the library that paints makes no image for it. -/
theorem blankDrawing_eq_error_iff {c : CanvasSettings} {fault : Fault} :
    blankDrawing c = .error fault ↔
      ∃ cause, Imaging.blank c.width c.height c.background = .error cause ∧ fault = .imaging cause := by
  unfold blankDrawing Raster.make
  cases Imaging.blank c.width c.height c.background with
  | ok image => exact ⟨nofun, fun ⟨_, himage, _⟩ => nomatch himage⟩
  | error cause =>
    constructor
    · intro h
      cases h
      exact ⟨cause, rfl, rfl⟩
    · rintro ⟨_, ⟨⟩, rfl⟩
      rfl

variable [Platform] [Validation]

/-- A run that comes to its end, with a turtle. -/
def Draws (script : NamedFile) (settings : Option NamedFile) (t : Turtle) : Prop :=
  ∃ commands s d start, Script.load script.bytes = .ok commands ∧ settingsOf settings = .ok s ∧
    blankDrawing s.canvas = .ok d ∧ s.start.turtle = .ok start ∧ (Command.run commands start d.surface).result = .ok t

/-- The faults behind a script that nothing reports: bytes of settings that are no text, no JSON or no object, a canvas
that the library which paints does not make, and a line that it does not paint. -/
inductive Unreported (commands : List Command) (settings : Option NamedFile) : Fault → Prop where
  | encoding {defect : Text.Utf8.Defect} :
      settingsOf settings = .error (.notUtf8 defect) → Unreported commands settings (.notUtf8 defect)
  | json {cause : Json.ReadFault} :
      settingsOf settings = .error (.notJson cause) → Unreported commands settings (.notJson cause)
  | object {j : Json} :
      settingsOf settings = .error (.notMapping j) → Unreported commands settings (.notMapping j)
  | canvas {s : Settings} {cause : ImagingFault} :
      settingsOf settings = .ok s →
      Imaging.blank s.canvas.width s.canvas.height s.canvas.background = .error cause →
      Unreported commands settings (.imaging cause)
  | line {s : Settings} {d : Drawing} {start : Turtle} {cause : ImagingFault} :
      settingsOf settings = .ok s → blankDrawing s.canvas = .ok d → s.start.turtle = .ok start →
      (Command.run commands start d.surface).result = .error (.imaging cause) →
      Unreported commands settings (.imaging cause)

variable {tree : FileTree} {arguments : List String} {script : NamedFile} {settings : Option NamedFile}
  {commands : List Command} {fault : Fault}

theorem Unreported.not_isReported (h : Unreported commands settings fault) : ¬fault.IsReported := by
  apply Fault.not_isReported
  cases h with
  | encoding _ => rfl
  | @json cause _ => cases cause <;> rfl
  | object _ => rfl
  | @canvas _ cause _ _ => exact cause.foreign
  | @line _ _ _ cause _ _ _ _ => exact cause.foreign

omit [Validation] in
/-- Without outputs a run does nothing while it draws. -/
theorem draw_unsaved (tree : FileTree) (commands : List Command) {s : Settings} {d : Drawing} {start : Turtle}
    (hd : blankDrawing s.canvas = .ok d) (hstart : s.start.turtle = .ok start) :
    (draw tree s ⟨none, none⟩ commands).deeds = [] ∧
      (draw tree s ⟨none, none⟩ commands).result = (Command.run commands start d.surface).result := by
  have hsave : ∀ drawn, Saving.save tree s ⟨none, none⟩ drawn = ⟨[], .ok ()⟩ := fun _ => rfl
  exact draw_of_run hd hstart rfl (hsave _)

/-- Settings that are not read have a field that is reported, or are not a JSON object at all. -/
theorem settingsOf_error (h : settingsOf settings = .error fault) :
    fault.IsReported ∨ Unreported commands settings fault := by
  cases settings with
  | none => cases h
  | some file =>
    have hload : Settings.load file.bytes = .error fault := h
    rcases Settings.load_error hload with ⟨issues, rfl⟩ | ⟨defect, rfl⟩ | ⟨cause, rfl⟩ | ⟨j, rfl⟩
    · exact .inl (.inr (.inr rfl))
    · exact .inr (.encoding h)
    · exact .inr (.json h)
    · exact .inr (.object h)

/-- Behind its settings a drawing ends well, with a fault that is reported, or with one that is not. -/
theorem draw_cases (tree : FileTree) {s : Settings} (hread : ∀ c ∈ commands, c.IsRead)
    (hs : settingsOf settings = .ok s) :
    (draw tree s ⟨none, none⟩ commands).deeds = [] ∧
      ((∃ d start t, blankDrawing s.canvas = .ok d ∧ s.start.turtle = .ok start ∧
          (Command.run commands start d.surface).result = .ok t ∧
          (draw tree s ⟨none, none⟩ commands).result = .ok t) ∨
        ∃ fault, (draw tree s ⟨none, none⟩ commands).result = .error fault ∧
          (fault.IsReported ∨ Unreported commands settings fault)) := by
  cases hd : blankDrawing s.canvas with
  | error fault =>
    obtain ⟨cause, hcause, rfl⟩ := blankDrawing_eq_error_iff.mp hd
    rw [draw_of_canvas hd]
    exact ⟨rfl, .inr ⟨_, rfl, .inr (.canvas hs hcause)⟩⟩
  | ok d =>
    cases hstart : s.start.turtle with
    | error fault =>
      rw [draw_of_start hd hstart]
      exact ⟨rfl, .inr ⟨fault, rfl, .inl (.inl (StartSettings.kind_of_turtle_error (inRange_of_settingsOf hs) hstart))⟩⟩
    | ok start =>
      obtain ⟨hdeeds, hresult⟩ := draw_unsaved tree commands hd hstart
      rw [hresult]
      refine ⟨hdeeds, ?_⟩
      cases hrun : (Command.run commands start d.surface).result with
      | ok t => exact .inl ⟨d, start, t, rfl, rfl, hrun, rfl⟩
      | error fault =>
        refine .inr ⟨fault, rfl, ?_⟩
        rcases Command.run_error_cases hread (Validate.sound_of_turtle hstart) hrun with hkind | ⟨cause, rfl⟩
        · exact .inl (.inl hkind)
        · exact .inr (.line hs hd hstart hrun)

/-- A run ends well, with a fault that is reported, or behind its script with one that is not. -/
theorem answer_cases (tree : FileTree) (script : NamedFile) (settings : Option NamedFile) :
    (∃ t, Draws script settings t ∧ (answer tree script settings ⟨none, none⟩).deeds = [.say t.describe] ∧
        (answer tree script settings ⟨none, none⟩).ending = .success) ∨
      ∃ fault, (answer tree script settings ⟨none, none⟩).deeds = [] ∧
        (answer tree script settings ⟨none, none⟩).ending = endingOf settings fault ∧
        (fault.IsReported ∨
          ∃ commands, Script.load script.bytes = .ok commands ∧ Unreported commands settings fault) := by
  rcases Script.load_cases script.bytes with ⟨issues, hscript⟩ | ⟨commands, hscript⟩
  · obtain ⟨hdeeds, hending⟩ := answer_of_script tree settings ⟨none, none⟩ hscript
    exact .inr ⟨_, hdeeds, hending, .inl (.inr (.inl rfl))⟩
  · cases hs : settingsOf settings with
    | error fault =>
      obtain ⟨hdeeds, hending⟩ := answer_of_settings tree ⟨none, none⟩ hscript hs
      exact .inr ⟨fault, hdeeds, hending, (settingsOf_error hs).imp_right fun h => ⟨commands, hscript, h⟩⟩
    | ok s =>
      have hanswer := answer_of_draw tree ⟨none, none⟩ hscript hs
      obtain ⟨hdeeds, hdraw⟩ := draw_cases tree (Script.isRead_of_load hscript) hs
      rw [hdeeds] at hanswer
      rcases hdraw with ⟨d, start, t, hd, hstart, hrun, hresult⟩ | ⟨fault, hresult, hfault⟩
      · rw [hresult] at hanswer
        exact .inl ⟨t, ⟨commands, s, d, start, hscript, hs, hd, hstart, hrun⟩, hanswer⟩
      · rw [hresult] at hanswer
        exact .inr ⟨fault, hanswer.1, hanswer.2, hfault.imp_right fun h => ⟨commands, hscript, h⟩⟩

theorem answer_of_unreported (hscript : Script.load script.bytes = .ok commands)
    (h : Unreported commands settings fault) :
    (answer tree script settings ⟨none, none⟩).ending = .failed fault := by
  rw [← endingOf_of_not_isReported settings h.not_isReported]
  have hdraw : ∀ {s : Settings}, settingsOf settings = .ok s →
      (draw tree s ⟨none, none⟩ commands).result = .error fault →
      (answer tree script settings ⟨none, none⟩).ending = endingOf settings fault := by
    intro s hs hresult
    have hanswer := answer_of_draw tree ⟨none, none⟩ hscript hs
    rw [hresult] at hanswer
    exact hanswer.2
  cases h with
  | encoding hs => exact (answer_of_settings tree _ hscript hs).2
  | json hs => exact (answer_of_settings tree _ hscript hs).2
  | object hs => exact (answer_of_settings tree _ hscript hs).2
  | canvas hs hcause =>
    exact hdraw hs (by rw [draw_of_canvas (blankDrawing_eq_error_iff.mpr ⟨_, hcause, rfl⟩)])
  | line hs hd hstart hrun => exact hdraw hs ((draw_unsaved tree commands hd hstart).2.trans hrun)

/-- For any bytes of a script and of settings, a run without outputs describes its last turtle and exits with zero, says
what is wrong on a line of its own and exits with one, or fails with a fault that nothing reports: one of the settings
that are no JSON object, of the canvas, or of a line. -/
theorem respond_reports_unless (h : Asks tree arguments script settings none none) :
    ((∃ t, Draws script settings t ∧ (respond tree arguments).deeds = [.say t.describe] ∧
        (respond tree arguments).exitCode = 0) ∨
      (∃ message, (respond tree arguments).deeds = [] ∧ (respond tree arguments).exitCode = 1 ∧
        (respond tree arguments).errorText? = some ("Error: " ++ message)) ∨
      ∃ fault, (respond tree arguments).deeds = [] ∧ (respond tree arguments).ending = .failed fault) ∧
    ∀ fault, (respond tree arguments).ending = .failed fault ↔
      ∃ commands, Script.load script.bytes = .ok commands ∧ Unreported commands settings fault := by
  obtain ⟨hdeeds, hending⟩ := respond_of_asks h
  dsimp only [Option.map_none] at hdeeds hending
  have hfailed : ∀ fault, (∃ commands, Script.load script.bytes = .ok commands ∧ Unreported commands settings fault) →
      (respond tree arguments).ending = .failed fault := by
    rintro fault ⟨commands, hscript, hunreported⟩
    exact hending.trans (answer_of_unreported hscript hunreported)
  rcases answer_cases tree script settings with
    ⟨t, hdraws, hsaid, hends⟩ | ⟨fault, hsaid, hends, hreported | hunreported⟩
  · have hsuccess := hending.trans hends
    refine ⟨.inl ⟨t, hdraws, hdeeds.trans hsaid, Report.exitCode_of_success hsuccess⟩,
      fun other => ⟨fun hother => ?_, hfailed other⟩⟩
    cases hsuccess.symm.trans hother
  · obtain ⟨message, hmessage⟩ := endingOf_of_isReported settings hreported
    have hrefused := hending.trans (hends.trans hmessage)
    refine ⟨.inr (.inl ⟨_, hdeeds.trans hsaid, Report.exitCode_of_refused hrefused,
        Report.errorText?_of_refused hrefused⟩),
      fun other => ⟨fun hother => ?_, hfailed other⟩⟩
    cases hrefused.symm.trans hother
  · have hfault := hfailed fault hunreported
    refine ⟨.inr (.inr ⟨fault, hdeeds.trans hsaid, hfault⟩), fun other => ⟨fun hother => ?_, hfailed other⟩⟩
    cases hfault.symm.trans hother
    exact hunreported

end Runs

def noCommands : NamedFile := ⟨"s.json", Text.Utf8.encode "[]".toList⟩

/-- Settings that end behind a brace. -/
def openBrace : NamedFile := ⟨"c.json", Text.Utf8.encode "\x7b".toList⟩

def openBraceTree : FileTree := ⟨[(noCommands.path, noCommands.bytes), (openBrace.path, openBrace.bytes)], []⟩

def openBraceLine : List String := ["run", "s.json", "--config", "c.json"]

theorem asks_openBrace : Asks openBraceTree openBraceLine noCommands (some openBrace) none none := by
  refine ⟨⟨false, by decide +kernel⟩, ⟨by decide +kernel, by decide +kernel⟩, ?_⟩
  intro file hfile
  cases hfile
  exact ⟨by decide +kernel, by decide +kernel⟩

open Standard

theorem exitCode_openBrace : (respond openBraceTree openBraceLine).exitCode = 1 := by decide +kernel

theorem errorText?_openBrace : (respond openBraceTree openBraceLine).errorText? = none := by decide +kernel

theorem respond_fails_openBrace :
    Asks openBraceTree openBraceLine noCommands (some openBrace) none none ∧
    ∃ fault commands, (respond openBraceTree openBraceLine).deeds = [] ∧
      (respond openBraceTree openBraceLine).ending = .failed fault ∧
      Script.load noCommands.bytes = .ok commands ∧ Unreported commands (some openBrace) fault := by
  obtain ⟨hends, hfailed⟩ := respond_reports_unless asks_openBrace
  refine ⟨asks_openBrace, ?_⟩
  rcases hends with ⟨t, -, -, hzero⟩ | ⟨message, -, -, htext⟩ | ⟨fault, hdeeds, hending⟩
  · cases exitCode_openBrace.symm.trans hzero
  · cases errorText?_openBrace.symm.trans htext
  · obtain ⟨commands, hscript, hunreported⟩ := (hfailed fault).mp hending
    exact ⟨fault, commands, hdeeds, hending, hscript, hunreported⟩

/-- Not every run without outputs describes a turtle or says what is wrong. -/
theorem openBrace_not_reported :
    ¬ ∀ (tree : FileTree) (arguments : List String) (script settings : NamedFile),
      Asks tree arguments script (some settings) none none →
      (∃ t : Turtle, (respond tree arguments).deeds = [.say t.describe] ∧ (respond tree arguments).exitCode = 0) ∨
      ∃ message, (respond tree arguments).errorText? = some ("Error: " ++ message) ∧
        (respond tree arguments).exitCode = 1 := by
  intro hall
  rcases hall _ _ _ _ asks_openBrace with ⟨t, -, hzero⟩ | ⟨message, htext, -⟩
  · cases exitCode_openBrace.symm.trans hzero
  · cases errorText?_openBrace.symm.trans htext

end Program

end TurtleGraphics
