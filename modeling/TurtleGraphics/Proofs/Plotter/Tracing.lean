import Mathlib.Tactic
import TurtleGraphics.Plotter.Drawing
import TurtleGraphics.Plotter.Machine
import TurtleGraphics.Proofs.Plotter.Reading

/-! Plotter programs on the machine. Each path is traced between a lowering and the next raising of the pen, and nothing
else is. -/

namespace TurtleGraphics

theorem ok_of_mapM_ok {ε α β : Type} {f : α → Except ε β} {l : List α} {bs : List β} (h : l.mapM f = .ok bs) :
    List.Forall₂ (fun a b => f a = .ok b) l bs := by
  induction l generalizing bs with
  | nil => cases h; exact .nil
  | cons a l ih =>
    rw [List.mapM_cons] at h
    obtain ⟨b, hb, h⟩ := ok_of_bind_ok h
    obtain ⟨cs, hcs, h⟩ := ok_of_bind_ok h
    cases h
    exact .cons hb (ih hcs)

theorem mapM_ok_of_forall₂ {ε α β : Type} {f : α → Except ε β} {l : List α} {bs : List β}
    (h : List.Forall₂ (fun a b => f a = .ok b) l bs) : l.mapM f = .ok bs := by
  induction h with
  | nil => rfl
  | cons hab _ ih =>
    rw [List.mapM_cons, hab, ih]
    rfl

theorem exists_mapM_ok_iff {ε α β : Type} {f : α → Except ε β} {l : List α} :
    (∃ bs, l.mapM f = .ok bs) ↔ ∀ a ∈ l, ∃ b, f a = .ok b := by
  induction l with
  | nil => exact ⟨fun _ => nofun, fun _ => ⟨[], rfl⟩⟩
  | cons a l ih =>
    rw [List.forall_mem_cons, ← ih]
    constructor
    · rintro ⟨bs, h⟩
      cases ok_of_mapM_ok h with
      | cons hb hbs => exact ⟨⟨_, hb⟩, _, mapM_ok_of_forall₂ hbs⟩
    · rintro ⟨⟨b, hb⟩, bs, hbs⟩
      refine ⟨b :: bs, ?_⟩
      rw [List.mapM_cons, hb, hbs]
      rfl

/-- What all results have, all arguments give. -/
theorem forall_mem_mapM_iff {ε α β : Type} {f : α → Except ε β} {P : β → Prop} {l : List α} {bs : List β}
    (hl : l.mapM f = .ok bs) : (∀ b ∈ bs, P b) ↔ ∀ a ∈ l, ∀ b, f a = .ok b → P b := by
  have hall := ok_of_mapM_ok hl
  clear hl
  induction hall with
  | nil => exact iff_of_true nofun nofun
  | @cons a b l bs hab _ ih =>
    rw [List.forall_mem_cons, List.forall_mem_cons]
    refine and_congr ⟨?_, fun h => h b hab⟩ ih
    intro h b' hab'
    cases hab.symm.trans hab'
    exact h

namespace Plotter

def MachinePoint.spot (p : MachinePoint) : Spot := (p.x.hundredthsText, p.y.hundredthsText)

def spotOf (s : Settings) (m : Mark) : Except Fault Spot := (toMachine s m).map MachinePoint.spot

def written (s : Settings) (path : Polyline) : Except Fault (List Spot) := path.mapM (spotOf s)

def penAngles (s : PlotterSettings) : PenAngles := ⟨s.upAngle, s.downAngle⟩

namespace Instruction

def isDraw : Instruction → Bool
  | .draw _ _ _ => true
  | _ => false

end Instruction

namespace Machine

/-- The pen is up, and what was traced so far is known. -/
structure Rests (m : Machine) (traced : List (List Spot)) : Prop where
  pen : m.pen = some .up
  trail : m.trail = []
  traced : m.traced = traced

end Machine

namespace Program

variable {angles : PenAngles}

/-- A program that starts and ends with the pen up, and traces the given polylines in between. -/
def Traces (angles : PenAngles) (p : Program) (polylines : List (List Spot)) : Prop :=
  ∀ ⦃m : Machine⦄ ⦃traced : List (List Spot)⦄, m.Rests traced →
    ∃ m', m.run angles p.instructions = some m' ∧ m'.Rests (traced ++ polylines)

theorem traces_nil : Traces angles [] [] := by
  intro m traced h
  refine ⟨m, rfl, ?_⟩
  rwa [List.append_nil]

theorem instructions_append (p q : Program) : (p ++ q).instructions = p.instructions ++ q.instructions :=
  List.filterMap_append

theorem Traces.append {p q : Program} {ps qs : List (List Spot)} (h : Traces angles p ps) (h' : Traces angles q qs) :
    Traces angles (p ++ q) (ps ++ qs) := by
  intro m traced hm
  obtain ⟨m₁, hrun, hm₁⟩ := h hm
  obtain ⟨m₂, hrun', hm₂⟩ := h' hm₁
  refine ⟨m₂, ?_, ?_⟩
  · rw [instructions_append, Machine.run_append, hrun, Option.bind_some, hrun']
  · rwa [← List.append_assoc]

end Program

namespace Machine

variable {angles : PenAngles} {m : Machine}

theorem run_draws (speed : Int) (stops : List Spot) (h : m.pen = some .down) :
    ∃ m', m.run angles (stops.map fun p => .draw p.1 p.2 speed) = some m' ∧
      m'.pen = some .down ∧ m'.trail = m.trail ++ stops ∧ m'.traced = m.traced := by
  -- The machine is general in the induction: each line starts from a longer trail.
  induction stops generalizing m with
  | nil => exact ⟨m, rfl, h, by simp, rfl⟩
  | cons p stops ih =>
    have hstep : m.step angles (.draw p.1 p.2 speed) =
        some { m with spot := some (p.1, p.2), trail := m.trail ++ [(p.1, p.2)] } := if_pos h
    obtain ⟨m', hrun, hpen, htrail, htraced⟩ :=
      @ih { m with spot := some (p.1, p.2), trail := m.trail ++ [(p.1, p.2)] } h
    refine ⟨m', ?_, hpen, ?_, htraced⟩
    · rw [List.map_cons, run, hstep]
      exact hrun
    · rw [htrail]
      simp

end Machine

variable {s : PlotterSettings}

def pathInstructions (s : PlotterSettings) (start : Spot) (stops : List Spot) : List Instruction :=
  .travel start.1 start.2 s.travelSpeed :: .servo s.downAngle ::
    (stops.map (fun p => .draw p.1 p.2 s.drawSpeed) ++ [.servo s.upAngle])

theorem run_path (hangles : s.upAngle ≠ s.downAngle) (start : Spot) (stops : List Spot) {m : Machine}
    {traced : List (List Spot)} (h : m.Rests traced) :
    ∃ m', m.run (penAngles s) (pathInstructions s start stops) = some m' ∧
      m'.Rests (traced ++ [start :: stops]) := by
  have htravel : m.step (penAngles s) (.travel start.1 start.2 s.travelSpeed) = some { m with spot := some start } :=
    if_pos h.pen
  have hlower : Machine.step (penAngles s) { m with spot := some start } (.servo s.downAngle) =
      some { m with spot := some start, pen := some .down, trail := [start] } := by
    have hne : s.downAngle ≠ s.upAngle := hangles.symm
    simp [Machine.step, penAngles, hne, Machine.lower, h.pen]
  obtain ⟨m₁, hrun, hpen, htrail, htraced⟩ :=
    @Machine.run_draws (penAngles s) { m with spot := some start, pen := some .down, trail := [start] }
      s.drawSpeed stops rfl
  have hraise : m₁.step (penAngles s) (.servo s.upAngle) =
      some { m₁ with pen := some .up, trail := [], traced := m₁.traced ++ [m₁.trail] } := by
    simp [Machine.step, penAngles, Machine.raise, hpen]
  refine ⟨{ m₁ with pen := some .up, trail := [], traced := m₁.traced ++ [m₁.trail] }, ?_, rfl, rfl, ?_⟩
  · unfold pathInstructions
    rw [Machine.run, htravel, Option.bind_some, Machine.run, hlower, Option.bind_some, Machine.run_append, hrun,
      Option.bind_some, Machine.run, hraise]
    rfl
  · change m₁.traced ++ [m₁.trail] = traced ++ [start :: stops]
    rw [htraced, htrail, ← h.traced]
    rfl

def isDrawable (path : Polyline) : Bool := 2 ≤ path.length

/-- A program that can be read and traces the drawable paths, one line for each of their segments. -/
structure Draws (s : Settings) (paths : List Polyline) (p : Program) : Prop where
  traces : ∃ traced, (paths.filter isDrawable).mapM (written s) = .ok traced ∧
    p.Traces (penAngles s.plotter) traced
  count : p.instructions.countP Instruction.isDraw =
    ((paths.filter isDrawable).map fun path => path.segments.length).sum
  readable : ∀ line ∈ p, line.IsReadable

theorem isReadable_travelTo (s : PlotterSettings) (p : MachinePoint) : (travelTo s p).IsReadable :=
  ⟨⟨.hundredths p.x, .hundredths p.y⟩, nofun⟩

theorem isReadable_drawTo (s : PlotterSettings) (p : MachinePoint) : (drawTo s p).IsReadable :=
  ⟨⟨.hundredths p.x, .hundredths p.y⟩, nofun⟩

theorem isReadable_note {i : Instruction} (h : i.IsReadable) {text : List Char} (htext : '\n' ∉ text) :
    (Line.step i (some text)).IsReadable := by
  refine ⟨h, ?_⟩
  intro note hnote
  cases hnote
  exact htext

theorem isReadable_raisePen (s : PlotterSettings) : (raisePen s).IsReadable :=
  @isReadable_note (.servo s.upAngle) trivial _ (by decide)

theorem isReadable_lowerPen (s : PlotterSettings) : (lowerPen s).IsReadable :=
  @isReadable_note (.servo s.downAngle) trivial _ (by decide)

def placedLines (s : PlotterSettings) (start : MachinePoint) (stops : List MachinePoint) : Program :=
  travelTo s start :: lowerPen s :: (stops.map (drawTo s) ++ [raisePen s])

theorem isReadable_placedLines (start : MachinePoint) (stops : List MachinePoint) :
    ∀ line ∈ placedLines s start stops, line.IsReadable := by
  intro line hline
  simp only [placedLines, List.mem_cons, List.mem_append, List.mem_map, List.not_mem_nil, or_false] at hline
  rcases hline with rfl | rfl | ⟨p, -, rfl⟩ | rfl
  · exact isReadable_travelTo s start
  · exact isReadable_lowerPen s
  · exact isReadable_drawTo s p
  · exact isReadable_raisePen s

theorem instructions_draws (stops : List MachinePoint) :
    Program.instructions (stops.map (drawTo s)) =
      (stops.map MachinePoint.spot).map fun p => .draw p.1 p.2 s.drawSpeed := by
  induction stops with
  | nil => rfl
  | cons p stops ih => exact congrArg (_ :: ·) ih

theorem instructions_placedLines (start : MachinePoint) (stops : List MachinePoint) :
    (placedLines s start stops).instructions = pathInstructions s start.spot (stops.map MachinePoint.spot) := by
  have hdraws := Program.instructions_append (stops.map (drawTo s)) [raisePen s]
  rw [instructions_draws] at hdraws
  exact congrArg (fun is => _ :: _ :: is) hdraws

theorem countP_isDraw_path (start : Spot) (stops : List Spot) :
    (pathInstructions s start stops).countP Instruction.isDraw = stops.length := by
  have hdraws : (stops.map fun p => Instruction.draw p.1 p.2 s.drawSpeed).countP Instruction.isDraw =
      stops.length := by
    rw [List.countP_map]
    exact List.countP_eq_length.mpr fun p _ => rfl
  unfold pathInstructions
  rw [List.countP_cons_of_neg Bool.false_ne_true, List.countP_cons_of_neg Bool.false_ne_true, List.countP_append,
    hdraws]
  rfl

theorem emit_ok_iff {line printed : Line} : emit line = .ok printed ↔ line.isWritable = true ∧ printed = line := by
  unfold emit
  split
  · next h => simp [h, eq_comm]
  · next h => simp [h]

theorem stops_ok {s : Settings} {marks : Polyline} {lines : Program} (h : marks.mapM (stopAt s) = .ok lines) :
    ∃ places, marks.mapM (toMachine s) = .ok places ∧ lines = places.map (drawTo s.plotter) := by
  have hall := ok_of_mapM_ok h
  clear h
  induction hall with
  | nil => exact ⟨[], rfl, rfl⟩
  | @cons m line marks lines hline _ ih =>
    obtain ⟨place, hplace, hline⟩ := ok_of_bind_ok hline
    obtain ⟨places, hplaces, rfl⟩ := ih
    obtain ⟨-, rfl⟩ := emit_ok_iff.mp hline
    refine ⟨place :: places, ?_, rfl⟩
    rw [List.mapM_cons, hplace, hplaces]
    rfl

/-- A path of at least two marks becomes the lines of their places, and any other path no line. -/
theorem pathLines_ok {s : Settings} {path : Polyline} {lines : Program} (h : pathLines s path = .ok lines) :
    (isDrawable path = false ∧ lines = []) ∨
      ∃ start stops, isDrawable path = true ∧ path.mapM (toMachine s) = .ok (start :: stops) ∧
        lines = placedLines s.plotter start stops := by
  match path with
  | [] => cases h; exact .inl ⟨rfl, rfl⟩
  | [m] => cases h; exact .inl ⟨rfl, rfl⟩
  | first :: second :: rest =>
    obtain ⟨start, hstart, h⟩ := ok_of_bind_ok h
    obtain ⟨travel, htravel, h⟩ := ok_of_bind_ok h
    obtain ⟨lower, hlower, h⟩ := ok_of_bind_ok h
    obtain ⟨draws, hdraws, h⟩ := ok_of_bind_ok h
    obtain ⟨raise, hraise, h⟩ := ok_of_bind_ok h
    cases h
    obtain ⟨stops, hstops, rfl⟩ := stops_ok hdraws
    obtain ⟨-, rfl⟩ := emit_ok_iff.mp htravel
    obtain ⟨-, rfl⟩ := emit_ok_iff.mp hlower
    obtain ⟨-, rfl⟩ := emit_ok_iff.mp hraise
    refine .inr ⟨start, stops, by simp [isDrawable], ?_, rfl⟩
    rw [List.mapM_cons, hstart, hstops]
    rfl

theorem isReadable_bodies {s : Settings} {paths : List Polyline} {bodies : List Program}
    (h : paths.mapM (pathLines s) = .ok bodies) : ∀ line ∈ bodies.flatten, line.IsReadable := by
  rw [List.forall_mem_flatten, forall_mem_mapM_iff h]
  intro path _ lines hlines
  rcases pathLines_ok hlines with ⟨-, rfl⟩ | ⟨start, stops, -, -, rfl⟩
  · exact nofun
  · exact isReadable_placedLines start stops

theorem written_ok {s : Settings} {path : Polyline} {places : List MachinePoint}
    (h : path.mapM (toMachine s) = .ok places) : written s path = .ok (places.map MachinePoint.spot) := by
  apply mapM_ok_of_forall₂
  rw [List.forall₂_map_right_iff]
  apply (ok_of_mapM_ok h).imp
  intro m p hp
  unfold spotOf
  rw [hp]
  rfl

theorem draws_nil (s : Settings) : Draws s [] [] := ⟨⟨[], rfl, Program.traces_nil⟩, rfl, nofun⟩

theorem Draws.cons {s : Settings} {path : Polyline} {paths : List Polyline} {lines p : Program}
    (hangles : s.plotter.upAngle ≠ s.plotter.downAngle) (hlines : pathLines s path = .ok lines) (h : Draws s paths p) :
    Draws s (path :: paths) (lines ++ p) := by
  rcases pathLines_ok hlines with ⟨hdrawable, rfl⟩ | ⟨start, stops, hdrawable, hplaces, rfl⟩
  · have hfilter : (path :: paths).filter isDrawable = paths.filter isDrawable :=
      List.filter_cons_of_neg (by simp [hdrawable])
    refine ⟨?_, ?_, h.readable⟩
    · rw [hfilter]
      exact h.traces
    · rw [hfilter]
      exact h.count
  · obtain ⟨traced, hspots, htraces⟩ := h.traces
    have hfilter : (path :: paths).filter isDrawable = path :: paths.filter isDrawable :=
      List.filter_cons_of_pos hdrawable
    have hlength := (ok_of_mapM_ok hplaces).length_eq
    have hpath : Program.Traces (penAngles s.plotter) (placedLines s.plotter start stops)
        [start.spot :: stops.map MachinePoint.spot] := by
      intro m traced hm
      rw [instructions_placedLines]
      exact run_path hangles start.spot (stops.map MachinePoint.spot) hm
    refine ⟨⟨(start.spot :: stops.map MachinePoint.spot) :: traced, ?_, hpath.append htraces⟩, ?_, ?_⟩
    · rw [hfilter, List.mapM_cons, written_ok hplaces, hspots]
      rfl
    · rw [hfilter, Program.instructions_append, List.countP_append, h.count, instructions_placedLines,
        countP_isDraw_path, List.map_cons, List.sum_cons, Polyline.length_segments, hlength]
      simp
    · intro line hline
      rcases List.mem_append.mp hline with hline | hline
      · exact isReadable_placedLines start stops line hline
      · exact h.readable line hline

theorem draws_bodies {s : Settings} (hangles : s.plotter.upAngle ≠ s.plotter.downAngle) {paths : List Polyline}
    {bodies : List Program} (h : paths.mapM (pathLines s) = .ok bodies) : Draws s paths bodies.flatten := by
  have hall := ok_of_mapM_ok h
  clear h
  induction hall with
  | nil => exact draws_nil s
  | cons hlines _ ih => exact ih.cons hangles hlines

end Plotter

end TurtleGraphics
