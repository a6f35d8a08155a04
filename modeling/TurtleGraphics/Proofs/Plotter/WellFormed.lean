import Mathlib.Tactic
import TurtleGraphics.Proofs.Decimal.Value
import TurtleGraphics.Proofs.Plotter.Drawing
import TurtleGraphics.Proofs.Turtle.Crew
import TurtleGraphics.Standard

/-! Lines that the machine can follow. A drawing that turtles leave on a recorder is made of such lines, but for what
stands behind the first line of its comment and for places that are not finite. -/

namespace TurtleGraphics.Plotter

namespace Instruction

theorem isNumeric_of_isDecimal {text : List Char} (h : isDecimal text = true) : IsNumeric text := by
  have hbody : IsNumeric (if text.head? = some '-' then text.tail else text) := by
    unfold isDecimal at h
    dsimp only at h
    generalize (if text.head? = some '-' then text.tail else text) = body at h ⊢
    -- Joined again, the pieces give the text back, so each of its characters is in a piece or the point.
    have hjoin := Text.intercalate_pieces '.' body
    split at h
    · next whole hpieces =>
      rw [hpieces, List.intercalate_singleton] at hjoin
      rw [Bool.and_eq_true, List.all_eq_true] at h
      rw [← hjoin]
      exact .of_digits h.2
    · next whole fraction hpieces =>
      rw [hpieces, List.intercalate_cons_of_ne_nil (List.cons_ne_nil _ _), List.intercalate_singleton] at hjoin
      simp only [Bool.and_eq_true, List.all_eq_true] at h
      rw [← hjoin]
      exact ((IsNumeric.of_digits h.1.1.2).append (.cons rfl .nil)).append (.of_digits h.2)
    · cases h
  cases text with
  | nil => exact .nil
  | cons c rest =>
    by_cases hc : c = '-'
    · subst hc
      exact .cons rfl hbody
    · rwa [List.head?_cons, if_neg (mt Option.some.inj hc)] at hbody

theorem isReadable_of_hasDecimals {i : Instruction} (h : i.hasDecimals = true) : i.IsReadable := by
  cases i with
  | travel x y speed =>
    obtain ⟨hx, hy⟩ := (Bool.and_eq_true _ _).mp h
    exact ⟨.of_isNumeric (isNumeric_of_isDecimal hx), .of_isNumeric (isNumeric_of_isDecimal hy)⟩
  | draw x y speed =>
    obtain ⟨hx, hy⟩ := (Bool.and_eq_true _ _).mp h
    exact ⟨.of_isNumeric (isNumeric_of_isDecimal hx), .of_isNumeric (isNumeric_of_isDecimal hy)⟩
  | _ => trivial

/-- The sign is taken off before the digits are looked at. -/
theorem unsigned_signed (negative : Bool) {body : List Char} (h : body.head? ≠ some '-') :
    (if (Binary64.signText negative ++ body).head? = some '-' then (Binary64.signText negative ++ body).tail
      else Binary64.signText negative ++ body) = body := by
  cases negative with
  | false => exact if_neg h
  | true => exact if_pos rfl

theorem isDecimal_places (negative : Bool) (n : Nat) :
    isDecimal (Binary64.signText negative ++ Binary64.placesText n) = true := by
  have hwhole := Numeral.isDigit_toDigits (n / 100)
  have hfraction : ∀ c ∈ Nat.toDigits 10 (n % 100 / 10) ++ Nat.toDigits 10 (n % 10), c.isDigit = true := by
    rw [List.forall_mem_append]
    exact ⟨Numeral.isDigit_toDigits _, Numeral.isDigit_toDigits _⟩
  have hpieces : Text.pieces '.' (Binary64.placesText n) =
      [Nat.toDigits 10 (n / 100), Nat.toDigits 10 (n % 100 / 10) ++ Nat.toDigits 10 (n % 10)] := by
    have hpoint {digits : List Char} (h : ∀ c ∈ digits, c.isDigit = true) : '.' ∉ digits := by
      intro hmem
      exact absurd (h _ hmem) (by decide)
    unfold Binary64.placesText
    rw [Text.pieces_append_cons (hpoint hwhole), Text.pieces_of_not_mem (hpoint hfraction)]
  have hsign : (Binary64.placesText n).head? ≠ some '-' := by
    intro hhead
    unfold Binary64.placesText at hhead
    rw [List.head?_append_of_ne_nil _ Nat.toDigits_ne_nil] at hhead
    exact absurd (hwhole _ (List.mem_of_mem_head? hhead)) (by decide)
  unfold isDecimal
  rw [unsigned_signed negative hsign]
  dsimp only
  rw [hpieces]
  simp only [Bool.and_eq_true, List.all_eq_true, Bool.not_eq_true', List.isEmpty_eq_false_iff]
  exact ⟨⟨⟨Nat.toDigits_ne_nil, hwhole⟩, List.append_ne_nil_of_left_ne_nil Nat.toDigits_ne_nil _⟩, hfraction⟩

/-- A coordinate is written as a finite decimal exactly when it is finite. -/
theorem isDecimal_hundredthsText (x : Binary64) : isDecimal x.hundredthsText = x.isFinite := by
  cases x with
  | notANumber => decide
  | infinite negative => cases negative <;> decide
  | finite negative m => exact isDecimal_places negative _

end Instruction

/-- A remark, or an instruction whose coordinates are finite decimals, with a remark behind it or without one. -/
inductive IsProgramLine : List Char → Prop where
  | remark (text : List Char) : IsProgramLine (';' :: text)
  | step {i : Instruction} (decimals : i.hasDecimals = true) : IsProgramLine i.render
  | noted {i : Instruction} (decimals : i.hasDecimals = true) (text : List Char) :
      IsProgramLine (i.render ++ ' ' :: ';' :: text)

namespace Line

def HasDecimals (line : Line) : Prop := ∀ i ∈ line.instruction?, i.hasDecimals = true

theorem hasDecimals_remark (text : List Char) : (Line.remark text).HasDecimals := nofun

theorem hasDecimals_step_iff {i : Instruction} {note : Option (List Char)} :
    (Line.step i note).HasDecimals ↔ i.hasDecimals = true := by
  constructor
  · intro h
    exact h i rfl
  · intro h j hj
    cases hj
    exact h

end Line

theorem IsProgramLine.exists_line {text : List Char} (h : IsProgramLine text) :
    ∃ line, Line.read? text = some line ∧ line.HasDecimals := by
  cases h with
  | remark text => exact ⟨.remark (text.drop 1), rfl, Line.hasDecimals_remark _⟩
  | @step i decimals =>
    have hreadable : (Line.step i none).IsReadable := ⟨Instruction.isReadable_of_hasDecimals decimals, nofun⟩
    exact ⟨_, Line.read?_render hreadable, Line.hasDecimals_step_iff.mpr decimals⟩
  | noted decimals text =>
    exact ⟨_, Line.read?_noted (Instruction.isReadable_of_hasDecimals decimals) text,
      Line.hasDecimals_step_iff.mpr decimals⟩

theorem isProgramLine_render_iff {line : Line} (h : line.IsReadable) :
    IsProgramLine line.render ↔ line.HasDecimals := by
  constructor
  · intro hline
    obtain ⟨line', hread, hdecimals⟩ := hline.exists_line
    obtain rfl := Option.some.inj ((Line.read?_render h).symm.trans hread)
    exact hdecimals
  · intro hdecimals
    cases line with
    | remark text => exact .remark (' ' :: text)
    | step i note =>
      have hi := Line.hasDecimals_step_iff.mp hdecimals
      cases note with
      | none => exact .step hi
      | some text => exact .noted hi (' ' :: text)

def textLines (text : String) : List (List Char) := Text.pieces '\n' text.toList

def furtherLines (comment : String) : List (List Char) := (textLines comment).tail

def instructionsIn (lines : List (List Char)) : List Instruction :=
  lines.filterMap fun line => (Line.read? line).bind Line.instruction?

theorem instructionsIn_append (first second : List (List Char)) :
    instructionsIn (first ++ second) = instructionsIn first ++ instructionsIn second := List.filterMap_append

theorem instructionsIn_render {p : Program} (h : ∀ line ∈ p, line.IsReadable) :
    instructionsIn (p.map Line.render) = p.instructions := by
  unfold instructionsIn Program.instructions
  rw [List.filterMap_map]
  apply List.filterMap_congr
  intro line hline
  rw [Function.comp_apply, Line.read?_render (h line hline), Option.bind_some]

/-- A comment begins with a semicolon in its first line only. -/
theorem pieces_remark (comment : String) :
    ∃ text, Text.pieces '\n' (Line.render (.remark comment.toList)) = (';' :: text) :: furtherLines comment := by
  obtain ⟨first, more, hpieces⟩ := List.exists_cons_of_ne_nil (Text.pieces_ne_nil '\n' comment.toList)
  refine ⟨' ' :: first, ?_⟩
  unfold furtherLines textLines
  change Text.extendFirst ';' (Text.extendFirst ' ' (Text.pieces '\n' comment.toList)) = _
  rw [hpieces]
  rfl

theorem textLines_text {p : Program} (hne : p ≠ []) :
    textLines (Program.text p) = p.flatMap fun line => Text.pieces '\n' line.render := by
  unfold textLines Program.text
  rw [String.toList_ofList, Program.pieces_render hne]

/-- The lines of a drawing: what opens the comment, the rest of the comment as it is, and the drawing without one. -/
theorem textLines_framed (s : Settings) (comment : String) (body : Program) :
    ∃ opening, (∀ line ∈ opening, ∃ text, line = ';' :: text) ∧
      textLines (Program.text (header s comment ++ body ++ footer s.plotter)) =
        opening ++ furtherLines comment ++ textLines (Program.text (header s "" ++ body ++ footer s.plotter)) := by
  have hheader : header s comment =
      (if comment.isEmpty then [] else [.remark comment.toList]) ++ header s "" := rfl
  rw [textLines_text (by simp [footer]), textLines_text (by simp [footer]), hheader]
  simp only [List.append_assoc]
  rw [List.flatMap_append]
  by_cases hempty : comment.isEmpty = true
  · obtain rfl := String.isEmpty_iff.mp hempty
    exact ⟨[], List.forall_mem_nil _, rfl⟩
  · obtain ⟨text, hpieces⟩ := pieces_remark comment
    refine ⟨[';' :: text], List.forall_mem_singleton.mpr ⟨text, rfl⟩, ?_⟩
    rw [if_neg hempty, List.flatMap_singleton, hpieces]
    rfl

theorem hasDecimals_header (s : Settings) : ∀ line ∈ header s "", line.HasDecimals := by
  intro line hline i hi
  have hmem : i ∈ (header s "").instructions := List.mem_filterMap.mpr ⟨line, hline, hi⟩
  rw [instructions_header] at hmem
  simp only [List.mem_cons, List.not_mem_nil, or_false] at hmem
  rcases hmem with rfl | rfl | rfl | rfl <;> rfl

theorem hasDecimals_footer (s : PlotterSettings) : ∀ line ∈ footer s, line.HasDecimals := by
  intro line hline
  simp only [footer, List.mem_cons, List.not_mem_nil, or_false] at hline
  rcases hline with rfl | rfl | rfl
  · exact Line.hasDecimals_step_iff.mpr rfl
  · exact Line.hasDecimals_step_iff.mpr (by decide : Instruction.hasDecimals (.travel ['0'] ['0'] 0) = true)
  · exact Line.hasDecimals_step_iff.mpr rfl

theorem isReadable_bare {s : Settings} {body : Program} (h : ∀ line ∈ body, line.IsReadable) :
    ∀ line ∈ header s "" ++ body ++ footer s.plotter, line.IsReadable := isReadable_framed (by decide) h

theorem textLines_bare {s : Settings} {body : Program} (h : ∀ line ∈ body, line.IsReadable) :
    textLines (Program.text (header s "" ++ body ++ footer s.plotter)) =
      (header s "" ++ body ++ footer s.plotter).map Line.render := by
  rw [textLines_text (by simp [footer]), Program.flatMap_pieces (isReadable_bare h)]

theorem isProgramLine_framed_iff {s : Settings} (comment : String) {body : Program}
    (hbody : ∀ line ∈ body, line.IsReadable) :
    (∀ line ∈ textLines (Program.text (header s comment ++ body ++ footer s.plotter)), IsProgramLine line) ↔
      (∀ line ∈ furtherLines comment, IsProgramLine line) ∧ ∀ line ∈ body, line.HasDecimals := by
  obtain ⟨opening, hopening, hlines⟩ := textLines_framed s comment body
  have hremarks : ∀ line ∈ opening, IsProgramLine line := by
    intro line hline
    obtain ⟨text, rfl⟩ := hopening line hline
    exact .remark text
  have hbare : (∀ line ∈ textLines (Program.text (header s "" ++ body ++ footer s.plotter)), IsProgramLine line) ↔
      ∀ line ∈ body, line.HasDecimals := by
    rw [textLines_bare hbody, List.forall_mem_map]
    rw [forall₂_congr fun line hline => isProgramLine_render_iff (isReadable_bare hbody line hline)]
    rw [List.forall_mem_append, List.forall_mem_append]
    exact ⟨fun h => h.1.2, fun h => ⟨⟨hasDecimals_header s, h⟩, hasDecimals_footer s.plotter⟩⟩
  rw [hlines, List.forall_mem_append, List.forall_mem_append, hbare]
  exact and_congr_left' (and_iff_right hremarks)

theorem instructionsIn_opening {opening : List (List Char)} (h : ∀ line ∈ opening, ∃ text, line = ';' :: text) :
    instructionsIn opening = [] := by
  apply List.filterMap_eq_nil_iff.mpr
  intro line hline
  obtain ⟨text, rfl⟩ := h line hline
  rfl

theorem instructionsIn_framed {s : Settings} (comment : String) {body : Program}
    (hbody : ∀ line ∈ body, line.IsReadable) :
    instructionsIn (textLines (Program.text (header s comment ++ body ++ footer s.plotter))) =
      instructionsIn (furtherLines comment) ++ (header s "" ++ body ++ footer s.plotter).instructions := by
  obtain ⟨opening, hopening, hlines⟩ := textLines_framed s comment body
  rw [hlines, instructionsIn_append, instructionsIn_append, instructionsIn_opening hopening, List.nil_append,
    textLines_bare hbody, instructionsIn_render (isReadable_bare hbody)]

def MachinePoint.isFinite (p : MachinePoint) : Bool := p.x.isFinite && p.y.isFinite

theorem isDecimal_place (p : MachinePoint) :
    (Instruction.isDecimal p.x.hundredthsText && Instruction.isDecimal p.y.hundredthsText) = p.isFinite := by
  rw [Instruction.isDecimal_hundredthsText, Instruction.isDecimal_hundredthsText, MachinePoint.isFinite]

theorem hasDecimals_travelTo_iff {s : PlotterSettings} {p : MachinePoint} :
    (travelTo s p).HasDecimals ↔ p.isFinite = true := by
  rw [travelTo, Line.hasDecimals_step_iff, Instruction.hasDecimals, isDecimal_place]

theorem hasDecimals_drawTo_iff {s : PlotterSettings} {p : MachinePoint} :
    (drawTo s p).HasDecimals ↔ p.isFinite = true := by
  rw [drawTo, Line.hasDecimals_step_iff, Instruction.hasDecimals, isDecimal_place]

theorem hasDecimals_placedLines_iff {s : PlotterSettings} {start : MachinePoint} {stops : List MachinePoint} :
    (∀ line ∈ placedLines s start stops, line.HasDecimals) ↔ ∀ place ∈ start :: stops, place.isFinite = true := by
  have hservo (angle : Int) (note : Option (List Char)) : (Line.step (.servo angle) note).HasDecimals :=
    Line.hasDecimals_step_iff.mpr rfl
  unfold placedLines
  rw [List.forall_mem_cons, List.forall_mem_cons, List.forall_mem_append, List.forall_mem_map,
    List.forall_mem_singleton, List.forall_mem_cons, hasDecimals_travelTo_iff]
  simp only [hasDecimals_drawTo_iff]
  exact and_congr_right' ⟨fun h => h.2.1, fun h => ⟨hservo _ _, h, hservo _ _⟩⟩

theorem hasDecimals_pathLines_iff {s : Settings} {path : Polyline} {lines : Program}
    (h : pathLines s path = .ok lines) :
    (∀ line ∈ lines, line.HasDecimals) ↔
      (isDrawable path = true → ∀ m ∈ path, ∀ place, toMachine s m = .ok place → place.isFinite = true) := by
  rcases pathLines_ok h with ⟨hshort, rfl⟩ | ⟨start, stops, hdrawable, hplaces, rfl⟩
  · rw [hshort]
    exact iff_of_true nofun nofun
  · rw [hasDecimals_placedLines_iff, forall_mem_mapM_iff hplaces]
    exact ⟨fun h _ => h, fun h => h hdrawable⟩

theorem hasDecimals_bodies_iff {s : Settings} {paths : List Polyline} {bodies : List Program}
    (h : paths.mapM (pathLines s) = .ok bodies) :
    (∀ line ∈ bodies.flatten, line.HasDecimals) ↔
      ∀ path ∈ paths, isDrawable path = true →
        ∀ m ∈ path, ∀ place, toMachine s m = .ok place → place.isFinite = true := by
  rw [List.forall_mem_flatten, forall_mem_mapM_iff h]
  refine forall₂_congr fun path hpath => ?_
  obtain ⟨lines, hlines⟩ := exists_mapM_ok_iff.mp ⟨bodies, h⟩ path hpath
  rw [← hasDecimals_pathLines_iff hlines]
  constructor
  · intro hall
    exact hall lines hlines
  · intro hall lines' hlines'
    cases hlines.symm.trans hlines'
    exact hall

/-- A text is well formed exactly when the comment is, behind its first line, and all places are finite. -/
theorem isProgramLine_drawingText_iff {s : Settings} {comment text : String} {paths : List Polyline}
    (h : drawingText s comment paths = .ok text) :
    (∀ line ∈ textLines text, IsProgramLine line) ↔
      (∀ line ∈ furtherLines comment, IsProgramLine line) ∧
        ∀ path ∈ paths, isDrawable path = true →
          ∀ m ∈ path, ∀ place, toMachine s m = .ok place → place.isFinite = true := by
  obtain ⟨p, hp, rfl⟩ := ok_of_map_ok h
  obtain ⟨-, bodies, hbodies, rfl⟩ := drawing_ok_iff.mp hp
  rw [isProgramLine_framed_iff comment (isReadable_bodies hbodies), hasDecimals_bodies_iff hbodies]

/-- The instructions of a text are those of its comment, behind its first line, and then those of the drawing without a
comment. -/
theorem instructionsIn_drawingText {s : Settings} {comment text : String} {paths : List Polyline}
    (h : drawingText s comment paths = .ok text) :
    ∃ bare, drawing s "" paths = .ok bare ∧
      instructionsIn (textLines text) = instructionsIn (furtherLines comment) ++ bare.instructions := by
  obtain ⟨p, hp, rfl⟩ := ok_of_map_ok h
  obtain ⟨hframe, bodies, hbodies, rfl⟩ := drawing_ok_iff.mp hp
  exact ⟨header s "" ++ bodies.flatten ++ footer s.plotter, drawing_ok_iff.mpr ⟨hframe, bodies, hbodies, rfl⟩,
    instructionsIn_framed comment (isReadable_bodies hbodies)⟩

/-- What turtles leave on a recorder of their own has a text exactly when the integers of the settings can be written
and no number of a path is too large for the machine. Each line of the text is a remark or an instruction with finite
decimals exactly when the lines of the comment behind its first are such, and all places are finite. Instructions
among those lines of the comment come first of all. -/
theorem crew_drawing_wellFormed [Platform] (s : Settings) (comment : String) {crew : List (Turtle × Nat)} {r : Recorder}
    (h : Crew (.recorder .empty) crew (.recorder r)) :
    ((∃ text, drawingText s comment r.paths = .ok text) ↔
      isFramePrintable s = true ∧ ∀ path ∈ r.paths, isPathPrintable s.plotter = true ∧
        ∀ m ∈ path, ∃ p : Point, m = .ofPoint p ∧ p.IsFinite ∧ hasPlace s p = true) ∧
    ∀ text, drawingText s comment r.paths = .ok text →
      ((∀ line ∈ textLines text, IsProgramLine line) ↔
        (∀ line ∈ furtherLines comment, IsProgramLine line) ∧
          ∀ path ∈ r.paths, ∀ m ∈ path, ∀ place, toMachine s m = .ok place → place.isFinite = true) ∧
      ∃ bare, drawing s "" r.paths = .ok bare ∧
        instructionsIn (textLines text) = instructionsIn (furtherLines comment) ++ bare.instructions := by
  obtain ⟨r', hr, hsettled⟩ := h.isSettled ⟨_, rfl, Recorder.isSettled_empty⟩
  cases hr
  -- No recorded path is too short to be drawn, so each of its points has to have a place.
  have hdrawable : ∀ path ∈ r.paths, isDrawable path = true :=
    fun path hpath => decide_eq_true (hsettled.paths path hpath).1
  refine ⟨?_, fun text htext => ⟨?_, instructionsIn_drawingText htext⟩⟩
  · rw [exists_drawingText_iff]
    refine and_congr_right' (forall₂_congr fun path hpath => ?_)
    rw [forall_prop_of_true (hdrawable path hpath)]
    refine and_congr_right' (forall₂_congr fun m hm => ?_)
    obtain ⟨p, rfl, hfinite⟩ := (hsettled.paths path hpath).2 m hm
    constructor
    · intro hplace
      exact ⟨p, rfl, hfinite, exists_toMachine_iff.mp hplace⟩
    · rintro ⟨q, hq, -, hplace⟩
      rw [hq]
      exact exists_toMachine_iff.mpr hplace
  · rw [isProgramLine_drawingText_iff htext]
    refine and_congr_right' (forall₂_congr fun path hpath => ?_)
    exact forall_prop_of_true (hdrawable path hpath)

open Standard

theorem halfPoint_drawing_wellFormed :
    ∃ crew r text, Crew (.recorder .empty) crew (.recorder r) ∧ r.paths = polylines [[halfPoint, ⟨.int 1, .int 0⟩]] ∧
      drawingText .standard "half a pixel\n; to the right" r.paths = .ok text ∧
      ∀ line ∈ textLines text, IsProgramLine line := by
  have hcrew := Crew.reach_halfPoint
  rw [@Recorder.drawn_down .empty rfl halfPoint ⟨.int 1, .int 0⟩] at hcrew
  obtain ⟨hiff, hlines⟩ := crew_drawing_wellFormed .standard "half a pixel\n; to the right" hcrew
  have hpoints : ∀ p ∈ [halfPoint, ⟨.int 1, .int 0⟩], p.x.isFinite? = some true ∧ p.y.isFinite? = some true ∧
      hasPlace .standard p = true ∧
      (toMachine .standard (.ofPoint p)).toOption.all MachinePoint.isFinite = true := by
    decide +kernel
  have hmarks {P : Mark → Prop} (h : ∀ p ∈ [halfPoint, ⟨.int 1, .int 0⟩], P (.ofPoint p)) :
      ∀ path ∈ polylines [[halfPoint, ⟨.int 1, .int 0⟩]], ∀ m ∈ path, P m := by
    unfold polylines
    rw [List.forall_mem_map, List.forall_mem_singleton, List.forall_mem_map]
    exact h
  have hprintable : isFramePrintable .standard = true ∧ isPathPrintable .standard = true := by decide +kernel
  obtain ⟨text, htext⟩ : ∃ text, drawingText .standard _ (polylines [[halfPoint, ⟨.int 1, .int 0⟩]]) = .ok text := by
    refine hiff.mpr ⟨hprintable.1, fun path hpath => ⟨hprintable.2, hmarks ?_ path hpath⟩⟩
    intro p hp
    obtain ⟨hx, hy, hplace, -⟩ := hpoints p hp
    exact ⟨p, rfl, ⟨Number.isFinite?_eq_true_iff.mp hx, Number.isFinite?_eq_true_iff.mp hy⟩, hplace⟩
  refine ⟨_, _, text, hcrew, rfl, htext, (hlines text htext).1.mpr ⟨?_, hmarks ?_⟩⟩
  · have hfurther : furtherLines "half a pixel\n; to the right" = [';' :: " to the right".toList] := by decide +kernel
    rw [hfurther, List.forall_mem_singleton]
    exact .remark _
  · intro p hp place hplace
    obtain ⟨-, -, -, hfinite⟩ := hpoints p hp
    rw [hplace] at hfinite
    exact hfinite

/-- A comment of three lines, of which the last one is an instruction. -/
theorem torn_comment_not_wellFormed :
    ∃ text bare, Crew (.recorder .empty) [] (.recorder .empty) ∧
      drawingText .standard "two\nlines\nG28" Recorder.empty.paths = .ok text ∧
      drawingText .standard "" Recorder.empty.paths = .ok bare ∧
      (∃ line ∈ textLines text, ¬IsProgramLine line) ∧
      instructionsIn (textLines text) ≠ instructionsIn (textLines bare) := by
  have hfurther : furtherLines "two\nlines\nG28" = ["lines".toList, "G28".toList] := by decide
  have hplain : furtherLines "" = [] := by decide
  have hhome : instructionsIn ["lines".toList, "G28".toList] = [.home] := by decide
  obtain ⟨text, htext⟩ : ∃ text, drawingText .standard "two\nlines\nG28" Recorder.empty.paths = .ok text :=
    exists_drawingText_iff.mpr ⟨by decide +kernel, List.forall_mem_nil _⟩
  obtain ⟨bare, hbare⟩ : ∃ bare, drawingText .standard "" Recorder.empty.paths = .ok bare :=
    exists_drawingText_iff.mpr ⟨by decide +kernel, List.forall_mem_nil _⟩
  refine ⟨text, bare, .opened, htext, hbare, ?_, ?_⟩
  · by_contra hnone
    have hall : ∀ line ∈ textLines text, IsProgramLine line := by
      intro line hline
      by_contra hbad
      exact hnone ⟨line, hline, hbad⟩
    have hcomment := ((isProgramLine_drawingText_iff htext).mp hall).1
    rw [hfurther, List.forall_mem_cons] at hcomment
    obtain ⟨line, hread, -⟩ := hcomment.1.exists_line
    have hunread : Line.read? "lines".toList = none := by decide
    rw [hunread] at hread
    cases hread
  · obtain ⟨p, hp, hinstructions⟩ := instructionsIn_drawingText htext
    obtain ⟨q, hq, hothers⟩ := instructionsIn_drawingText hbare
    cases hp.symm.trans hq
    rw [hinstructions, hothers, hfurther, hplain, hhome]
    exact List.cons_ne_self _ _

end TurtleGraphics.Plotter
