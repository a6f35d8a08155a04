import Mathlib.Tactic
import TurtleGraphics.Proofs.Surface.Kept
import TurtleGraphics.Proofs.Surface.Painter
import TurtleGraphics.Proofs.Turtle.Reachable

/-! Sessions and their surfaces. A surface that takes its calls tells a turtle nothing, so turtles and faults are the
same on every tree of surfaces, and each leaf of the tree is left as if it were the whole. -/

namespace TurtleGraphics

namespace Transition

/-- The calls that a transition sends for a turtle, and how it ends, on every surface that takes them. -/
def Sends (f : Transition) (t : Turtle) (cs : List SurfaceCall) (result : Except Fault Turtle) : Prop :=
  ∀ s : Surface, s.Takes cs → f t s = ⟨result, s.drawn cs⟩

/-- What a transition sends and how it ends depends on the turtle alone. -/
def SurfaceBlind (f : Transition) : Prop := ∀ t, ∃ cs result, f.Sends t cs result

variable {f g : Transition}

theorem surfaceBlind_quiet (h : Turtle → Except Fault Turtle) : SurfaceBlind (quiet h) :=
  fun t => ⟨[], h t, fun _ _ => rfl⟩

theorem surfaceBlind_fail (fault : Fault) : SurfaceBlind (fail fault) := surfaceBlind_quiet fun _ => .error fault

theorem sends_moveBy [Platform] {distance : Number} {t : Turtle} {stop : Point}
    (h : Motion.travel distance t.heading t.position = .ok stop) :
    (moveBy distance).Sends t (moveCalls t.pen t.position stop) (.ok { t with position := stop }) := by
  intro s hs
  rw [moveBy_eq, h]
  dsimp only
  rw [hs]

theorem surfaceBlind_moveBy [Platform] (distance : Number) : SurfaceBlind (moveBy distance) := by
  intro t
  cases hstop : Motion.travel distance t.heading t.position with
  | error fault =>
    refine ⟨[], .error fault, fun s _ => ?_⟩
    rw [moveBy_eq, hstop]
    rfl
  | ok stop => exact ⟨_, _, sends_moveBy hstop⟩

theorem Atomic.surfaceBlind [Platform] {moves : Bool} (h : Atomic moves f) : f.SurfaceBlind := by
  cases h with
  | move distance => exact surfaceBlind_moveBy distance
  | refusal _ _ => exact surfaceBlind_fail _
  | still _ _ _ => exact surfaceBlind_quiet _

theorem Sends.andThen {t t' : Turtle} {cs ds : List SurfaceCall} {result : Except Fault Turtle}
    (hf : f.Sends t cs (.ok t')) (hg : g.Sends t' ds result) :
    Sends (fun t s => (f t s).andThen g) t (cs ++ ds) result := by
  intro s hs
  obtain ⟨hcs, hds⟩ := Surface.takes_append.mp hs
  dsimp only
  rw [hf s hcs, Surface.drawn_append]
  exact hg (s.drawn cs) hds

theorem SurfaceBlind.andThen (hf : f.SurfaceBlind) (hg : g.SurfaceBlind) :
    SurfaceBlind fun t s => (f t s).andThen g := by
  intro t
  obtain ⟨cs, result, hf⟩ := hf t
  cases result with
  | error fault =>
    refine ⟨cs, .error fault, fun s hs => ?_⟩
    dsimp only
    rw [hf s hs]
    rfl
  | ok t' =>
    obtain ⟨ds, result, hg⟩ := hg t'
    exact ⟨cs ++ ds, result, hf.andThen hg⟩

theorem Composed.surfaceBlind [Platform] {moves : Nat} (h : Composed moves f) : f.SurfaceBlind := by
  induction h with
  | step hatomic => exact hatomic.surfaceBlind
  | refusal _ fault => exact surfaceBlind_fail fault
  | andThen _ _ ihf ihg => exact ihf.andThen ihg

end Transition

namespace Session

open SurfaceCall (kindsMeet)

def after [Platform] (session : Session) (steps : List Step) : Session :=
  steps.foldl (fun w step => (w.step step).1) session

/-- What a step shows of the session behind it: the turtles reached so far, and the fault of the step. -/
def told (w : Session × Option Fault) : List Turtle × Option Fault := (w.1.history, w.2)

theorem exists_sent_step [Platform] (last : Turtle) (earlier : List Turtle) (step : Step) :
    ∃ cs last' earlier' fault, ∀ s : Surface, s.Takes cs →
      (Session.mk last earlier s).step step = (⟨last', earlier', s.drawn cs⟩, fault) := by
  cases step with
  | act source plan =>
    have hsource : ∀ s s' : Surface, (Session.mk last earlier s).turtleAt source =
        (Session.mk last earlier s').turtleAt source := by
      intro s s'
      cases source <;> rfl
    obtain ⟨cs, result, hsends⟩ :=
      plan.composed_perform.surfaceBlind ((Session.mk last earlier default).turtleAt source)
    cases result with
    | ok t =>
      refine ⟨cs, t, last :: earlier, none, fun s hs => ?_⟩
      rw [step, hsource s default, hsends s hs]
      rfl
    | error fault =>
      refine ⟨cs, last, last :: earlier, some fault, fun s hs => ?_⟩
      rw [step, hsource s default, hsends s hs]
      rfl
  | draw c =>
    refine ⟨[c], last, last :: earlier, none, fun s hs => ?_⟩
    have hnone := (Surface.takes_cons.mp hs).1
    change ((Session.mk last earlier s).reach last (s.call c).1, (s.call c).2) = _
    rw [hnone]
    rfl

theorem exists_sent [Platform] (last : Turtle) (earlier : List Turtle) (steps : List Step) :
    ∃ cs heard, ∀ s : Surface, s.Takes cs →
      ((Session.mk last earlier s).steps steps).map told = heard ∧
        ((Session.mk last earlier s).after steps).surface = s.drawn cs := by
  induction steps generalizing last earlier with
  | nil => exact ⟨[], [], fun _ _ => ⟨rfl, rfl⟩⟩
  | cons step steps ih =>
    obtain ⟨cs, last', earlier', fault, hstep⟩ := exists_sent_step last earlier step
    obtain ⟨ds, heard, hrest⟩ := ih last' earlier'
    refine ⟨cs ++ ds, ((last' :: earlier').reverse, fault) :: heard, fun s hs => ?_⟩
    obtain ⟨hcs, hds⟩ := Surface.takes_append.mp hs
    obtain ⟨hheard, hsurface⟩ := hrest (s.drawn cs) hds
    have hafter : (Session.mk last earlier s).after (step :: steps) =
        (Session.mk last' earlier' (s.drawn cs)).after steps := by
      rw [after, List.foldl_cons, hstep s hcs]
      rfl
    refine ⟨?_, ?_⟩
    · rw [Session.steps, hstep s hcs]
      dsimp only
      rw [List.map_cons, hheard]
      rfl
    · rw [hafter, hsurface, Surface.drawn_append]

/-- On a tree of fresh surfaces, whatever has been drawn before, turtles and faults are those of any single recorder,
and every leaf is left as if it alone were the surface. With rasters in the tree, the lines have to be near. -/
theorem tree_transparent [Platform] {s : Surface} (hs : s.IsFresh) (before : List SurfaceCall) (t : Turtle)
    (steps : List Step)
    (hnear : s.onlyRecorders = true ∨
      ∀ m ∈ ((start t ((Surface.recorder .empty).drawn before)).after steps).surface.kept, m.IsNear) :
    (∀ r, ((start t (s.drawn before)).steps steps).map told = ((start t (.recorder r)).steps steps).map told) ∧
      ((start t (s.drawn before)).after steps).surface =
        s.mapLeaves fun leaf => ((start t (leaf.drawn before)).after steps).surface := by
  obtain ⟨cs, heard, hsent⟩ := exists_sent t [] steps
  have hrecorder : ∀ r, (Surface.recorder r).Takes cs := fun r => Surface.takes_of_onlyRecorders rfl cs
  have htakes : s.Takes (before ++ cs) := by
    rcases hnear with honly | hnear
    · exact Surface.takes_of_onlyRecorders honly _
    · apply Surface.takes_of_isFresh hs
      rw [Surface.drawn_append, Recorder.drawn_recorder] at *
      have := (hsent _ (hrecorder (Recorder.empty.takeAll before))).2
      rw [← this]
      exact hnear
  refine ⟨?_, ?_⟩
  · intro r
    exact (hsent _ (Surface.takes_append.mp htakes).2).1.trans (hsent _ (hrecorder r)).1.symm
  · have hleaf : ∀ leaf : Surface, leaf.Takes (before ++ cs) →
        leaf.drawn (before ++ cs) = ((start t (leaf.drawn before)).after steps).surface := by
      intro leaf hleaf
      rw [Surface.drawn_append]
      exact (hsent _ (Surface.takes_append.mp hleaf).2).2.symm
    calc ((start t (s.drawn before)).after steps).surface
        = (s.drawn before).drawn cs := (hsent _ (Surface.takes_append.mp htakes).2).2
      _ = s.drawn (before ++ cs) := (s.drawn_append before cs).symm
      _ = _ := Surface.drawn_eq_mapLeaves hleaf htakes

open Standard

/-- A recorder, a tree without leaves, and a raster one level further down. -/
def framed : Surface :=
  .fanOut [.recorder .empty, .fanOut [], .fanOut [.raster ⟨imaging, .blank 8 6 .white, .whole "black", 1, .origin, []⟩]]

/-- A drawn move, a turn that fails, a call past the turtles, and a run from an earlier turtle that fails on its way. -/
def wandering : List Step :=
  [.act none (.setPen .down), .act none (.move (.int 3)), .act none (.turn (.int 400)),
    .draw (.moveTo (.ofPoint ⟨.int 5, .int 5⟩)),
    .act (some 1) (.run [⟨.text "TURN", .int 90⟩, ⟨.text "MOVE", .int 4⟩, ⟨.text "MOVE", .null⟩,
      ⟨.text "MOVE", .text "x"⟩])]

theorem framed_transparent :
    framed.IsFresh ∧
    (∀ m ∈ ((start ⟨⟨.int 0, .int 0⟩, .int 0, .up⟩ ((Surface.recorder .empty).drawn kindsMeet)).after
      wandering).surface.kept, m.IsNear) ∧
    (∀ r, ((start ⟨⟨.int 0, .int 0⟩, .int 0, .up⟩ (framed.drawn kindsMeet)).steps wandering).map told =
      ((start ⟨⟨.int 0, .int 0⟩, .int 0, .up⟩ (.recorder r)).steps wandering).map told) ∧
    ((start ⟨⟨.int 0, .int 0⟩, .int 0, .up⟩ (framed.drawn kindsMeet)).after wandering).surface =
      framed.mapLeaves fun leaf =>
        ((start ⟨⟨.int 0, .int 0⟩, .int 0, .up⟩ (leaf.drawn kindsMeet)).after wandering).surface := by
  have hraster : Raster.make 8 6 (.whole "white") (.whole "black") 1 =
      .ok ⟨imaging, .blank 8 6 .white, .whole "black", 1, .origin, []⟩ := by rfl
  have hink : Colour.ofName (.whole "black") = .ok .black := by rfl
  have hfresh : framed.IsFresh := by
    refine .fanOut ?_
    simp only [List.forall_mem_cons, List.not_mem_nil, false_implies, implies_true, and_true]
    refine ⟨.recorder, .fanOut nofun, .fanOut ?_⟩
    simp only [List.forall_mem_cons, List.not_mem_nil, false_implies, implies_true, and_true]
    exact .raster hraster (Painter.accepts hink)
  have hnear : ∀ m ∈ ((start ⟨⟨.int 0, .int 0⟩, .int 0, .up⟩ ((Surface.recorder .empty).drawn kindsMeet)).after
      wandering).surface.kept, m.IsNear := by
    decide +kernel
  exact ⟨hfresh, hnear, tree_transparent hfresh kindsMeet _ wandering (.inr hnear)⟩

end Session

end TurtleGraphics
