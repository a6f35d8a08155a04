import Mathlib.Tactic
import TurtleGraphics.CommandLine.Program
import TurtleGraphics.Proofs.Script.Lines
import TurtleGraphics.Proofs.Settings.Start

/-! What the program answers when it is asked to run a script. The script is read first, then the settings, then the
canvas and the turtle are made; the first of them that fails decides the answer, and nothing is done but a notice. -/

namespace TurtleGraphics

namespace Event

/-- A line that is said, or a file that is written. -/
def isDeed : Event → Bool
  | .notice _ => false
  | _ => true

end Event

namespace Report

/-- What a report holds beside notices. -/
def deeds (r : Report) : List Event := r.events.filter Event.isDeed

theorem exitCode_of_success {r : Report} (h : r.ending = .success) : r.exitCode = 0 := by
  unfold exitCode
  rw [h]

theorem exitCode_of_refused {r : Report} {message : String} (h : r.ending = .refused message) : r.exitCode = 1 := by
  unfold exitCode
  rw [h]

theorem errorText?_of_refused {r : Report} {message : String} (h : r.ending = .refused message) :
    r.errorText? = some ("Error: " ++ plain message) := by
  have hchars : ("Error: " ++ message).toList =
      'E' :: 'r' :: 'r' :: 'o' :: 'r' :: ':' :: ' ' :: message.toList := String.toList_append
  unfold errorText?
  rw [h]
  refine congrArg some (String.toList_injective ?_)
  rw [String.toList_append]
  change (String.ofList (dropCodes 0 ("Error: " ++ message).toList)).toList = _
  rw [hchars, String.toList_ofList]
  simp only [dropCodes, codeLength, plain, String.toList_ofList]
  rfl

end Report

namespace Activity

variable {α β : Type}

def deeds (a : Activity α) : List Event := a.events.filter Event.isDeed

theorem bind_of_ok {a : Activity α} {x : α} (h : a.result = .ok x) (next : α → Activity β) :
    (a >>= next) = ⟨a.events ++ (next x).events, (next x).result⟩ := by
  change a.andThen next = _
  unfold andThen
  rw [h]

theorem deeds_bind_of_ok {a : Activity α} {x : α} (h : a.result = .ok x) (next : α → Activity β) :
    (a >>= next).deeds = a.deeds ++ (next x).deeds := by
  rw [bind_of_ok h]
  exact List.filter_append ..

end Activity

/-- A file that a command line names, and what it holds. -/
structure NamedFile where
  name : String
  bytes : List UInt8

namespace NamedFile

def path (f : NamedFile) : Path := .ofString f.name

structure IsThere (f : NamedFile) (tree : FileTree) : Prop where
  holdsEnd : Path.holdsEnd f.name = false
  named : tree.named? f.name = some f.bytes

end NamedFile

namespace Program

/-- The arguments ask to run a script, perhaps under a settings file, and what they name is there. -/
structure Asks (tree : FileTree) (arguments : List String) (script : NamedFile) (settings : Option NamedFile)
    (image program : Option String) : Prop where
  request : ∃ verbose, Request.read? arguments =
    some ⟨verbose, .run [script.name] (settings.map NamedFile.name) image program⟩
  script : script.IsThere tree
  settings : ∀ file ∈ settings, file.IsThere tree

variable {tree : FileTree} {arguments : List String} {script : NamedFile} {settings : Option NamedFile}
  {image program : Option String} {target : Destinations}

theorem withFile_of_isThere {file : NamedFile} (h : file.IsThere tree) (next : List UInt8 → Report) :
    withFile tree file.name next = next file.bytes := by
  unfold withFile
  rw [h.holdsEnd, h.named]
  rfl

/-- How a run ends in a fault. What is wrong with settings is said with the name of their file. -/
def endingOf (settings : Option NamedFile) (fault : Fault) : Ending :=
  ending (settings.elim "" fun file => file.path.text) fault

variable {s : Settings} {commands : List Command} {fault : Fault}

theorem finish_of_error {α : Type} {a : Activity α} (h : a.result = .error fault) (onFault : Fault → Ending)
    (last : α → List Event) :
    (finish a onFault last).deeds = a.deeds ∧ (finish a onFault last).ending = onFault fault := by
  unfold finish
  rw [h]
  exact ⟨rfl, rfl⟩

theorem finish_of_ok {α : Type} {a : Activity α} {x : α} (h : a.result = .ok x) (onFault : Fault → Ending)
    (last : α → List Event) :
    (finish a onFault last).deeds = a.deeds ++ (last x).filter Event.isDeed ∧
      (finish a onFault last).ending = .success := by
  unfold finish
  rw [h]
  exact ⟨List.filter_append .., rfl⟩

theorem deeds_skipNotices (reached : List Command) : (skipNotices reached).filter Event.isDeed = [] := by
  rw [List.filter_eq_nil_iff]
  intro e he
  obtain ⟨c, -, rfl⟩ := List.mem_map.mp he
  exact Bool.false_ne_true

variable [Validation]

theorem loadScript_of_ok (p : Path) {bytes : List UInt8} (h : Script.load bytes = .ok commands) :
    ∃ lines notice, lines.map ScriptLine.toCommand = commands ∧
      loadScript p bytes = ⟨[.notice notice], .ok lines⟩ := by
  obtain ⟨lines, hparse, hlines⟩ := Script.load_eq_ok_iff.mp h
  unfold loadScript
  rw [hparse]
  exact ⟨lines, _, hlines, rfl⟩

theorem loadScript_of_error (p : Path) {bytes : List UInt8} (h : Script.load bytes = .error fault) :
    loadScript p bytes = ⟨[], .error fault⟩ := by
  obtain ⟨issues, hparse, rfl⟩ := Script.load_eq_error_iff.mp h
  unfold loadScript
  rw [hparse]
  rfl

variable [Platform]

/-- The settings of a run: standard ones, or those of the file. -/
def settingsOf (settings : Option NamedFile) : Except Fault Settings :=
  settings.elim (.ok .standard) fun file => Settings.load file.bytes

/-- The settings of a run have a start that is refused only for where it lies. -/
theorem inRange_of_settingsOf {s : Settings} (h : settingsOf settings = .ok s) :
    Validate.inRange (.float s.start.heading) = true := by
  cases settings with
  | none => cases h; exact StartSettings.isStorable_standard.heading
  | some file => exact (Settings.isStorable_start_of_load h).heading

variable [Imaging]

/-- The report of a run, before notices are left out of it. -/
def answer (tree : FileTree) (script : NamedFile) (settings : Option NamedFile) (target : Destinations) : Report :=
  run tree script.path script.bytes (settings.map fun file => (file.path, file.bytes)) target

theorem respond_of_asks (h : Asks tree arguments script settings image program) :
    (respond tree arguments).deeds =
        (answer tree script settings ⟨image.map .ofString, program.map .ofString⟩).deeds ∧
      (respond tree arguments).ending =
        (answer tree script settings ⟨image.map .ofString, program.map .ofString⟩).ending := by
  have hrun : runNamed tree [script.name] (settings.map NamedFile.name) image program =
      answer tree script settings ⟨image.map .ofString, program.map .ofString⟩ := by
    cases hsettings : settings with
    | none => exact withFile_of_isThere h.script fun bytes => run tree script.path bytes none _
    | some file =>
      have hscript := withFile_of_isThere h.script fun bytes =>
        run tree script.path bytes (some (file.path, file.bytes)) ⟨image.map .ofString, program.map .ofString⟩
      exact (withFile_of_isThere (h.settings file hsettings) _).trans hscript
  obtain ⟨verbose, hrequest⟩ := h.request
  have hshown : ∀ e : Event, (e.isDeed && e.isShown verbose) = e.isDeed := by
    intro e
    cases e <;> rfl
  unfold respond
  rw [hrequest]
  dsimp only [perform]
  rw [hrun]
  refine ⟨?_, rfl⟩
  simp only [Report.deeds, List.filter_filter, hshown]

def loading (tree : FileTree) (script : NamedFile) (settings : Option NamedFile) (target : Destinations) :
    Activity Turtle := do
  let lines ← loadScript script.path script.bytes
  let s ← Activity.ofExcept (settingsOf settings)
  draw tree s target (lines.map ScriptLine.toCommand)

theorem answer_eq (tree : FileTree) (script : NamedFile) (settings : Option NamedFile) (target : Destinations) :
    answer tree script settings target =
      finish (loading tree script settings target) (endingOf settings) describeLine := by
  cases settings <;> rfl

/-- Bytes that are no script end the run at once. -/
theorem answer_of_script (tree : FileTree) (settings : Option NamedFile) (target : Destinations)
    (h : Script.load script.bytes = .error fault) :
    (answer tree script settings target).deeds = [] ∧
      (answer tree script settings target).ending = endingOf settings fault := by
  have hload : loading tree script settings target = ⟨[], .error fault⟩ := by
    unfold loading
    rw [loadScript_of_error script.path h]
    rfl
  rw [answer_eq, hload]
  exact finish_of_error rfl _ _

theorem answer_of_settings (tree : FileTree) (target : Destinations)
    (h : Script.load script.bytes = .ok commands) (hs : settingsOf settings = .error fault) :
    (answer tree script settings target).deeds = [] ∧
      (answer tree script settings target).ending = endingOf settings fault := by
  have hload : (loading tree script settings target).deeds = [] ∧
      (loading tree script settings target).result = .error fault := by
    obtain ⟨lines, notice, -, hloaded⟩ := loadScript_of_ok script.path h
    unfold loading
    rw [hloaded, hs]
    exact ⟨rfl, rfl⟩
  rw [answer_eq, ← hload.1]
  exact finish_of_error hload.2 _ _

/-- Behind the script and the settings only the drawing counts, and a turtle that it ends with is described. -/
theorem answer_of_draw (tree : FileTree) (target : Destinations) (h : Script.load script.bytes = .ok commands)
    (hs : settingsOf settings = .ok s) :
    match (draw tree s target commands).result with
    | .ok t =>
      (answer tree script settings target).deeds = (draw tree s target commands).deeds ++ [.say t.describe] ∧
        (answer tree script settings target).ending = .success
    | .error fault =>
      (answer tree script settings target).deeds = (draw tree s target commands).deeds ∧
        (answer tree script settings target).ending = endingOf settings fault := by
  have hload : (loading tree script settings target).deeds = (draw tree s target commands).deeds ∧
      (loading tree script settings target).result = (draw tree s target commands).result := by
    obtain ⟨lines, notice, rfl, hloaded⟩ := loadScript_of_ok script.path h
    unfold loading
    rw [hloaded, hs]
    exact ⟨rfl, rfl⟩
  rw [answer_eq, ← hload.1, ← hload.2]
  split
  · exact finish_of_ok ‹_› _ _
  · exact finish_of_error ‹_› _ _

omit [Validation] in
theorem draw_of_canvas (h : blankDrawing s.canvas = .error fault) :
    draw tree s target commands = ⟨[], .error fault⟩ := by
  unfold draw
  rw [h]
  rfl

omit [Validation] in
theorem draw_of_start {d : Drawing} (hd : blankDrawing s.canvas = .ok d) (h : s.start.turtle = .error fault) :
    draw tree s target commands = ⟨[], .error fault⟩ := by
  unfold draw
  rw [hd, h]
  rfl

omit [Validation] in
/-- When saving succeeds, a drawing ends as its run ends, and what is saved is all that is done. -/
theorem draw_of_run {d : Drawing} {t : Turtle} {o : Outcome} {saved : List Event}
    (hd : blankDrawing s.canvas = .ok d) (ht : s.start.turtle = .ok t) (hrun : Command.run commands t d.surface = o)
    (hsave : Saving.save tree s target ((Drawing.ofSurface? o.surface).getD d) = ⟨saved, .ok ()⟩) :
    (draw tree s target commands).deeds = saved.filter Event.isDeed ∧
      (draw tree s target commands).result = o.result := by
  obtain ⟨result, surface⟩ := o
  have hevents : ∀ reached, (skipNotices reached ++ saved).filter Event.isDeed = saved.filter Event.isDeed := by
    intro reached
    rw [List.filter_append, deeds_skipNotices, List.nil_append]
  unfold draw runCommands
  rw [hd, ht]
  change (Activity.deeds (Activity.andFinally _ _ >>= _) = _) ∧ Activity.result (Activity.andFinally _ _ >>= _) = _
  dsimp only
  rw [hrun]
  dsimp only
  rw [hsave]
  cases result with
  | error fault => exact ⟨hevents _, rfl⟩
  | ok t' =>
    refine ⟨?_, rfl⟩
    rw [Activity.deeds_bind_of_ok rfl]
    exact (List.append_nil _).trans (hevents _)

end Program

end TurtleGraphics
