import Mathlib.Tactic
import TurtleGraphics.Proofs.Surface.Calls

/-! Trees of surfaces. As long as no call is refused, every leaf of a tree gets all of them, and is left as it would be
without the tree around it. -/

namespace TurtleGraphics.Surface

/-- The surface refuses none of the calls. -/
def Takes (s : Surface) (cs : List SurfaceCall) : Prop := s.calls cs = (s.drawn cs, none)

variable {s : Surface} {members : List Surface} {c : SurfaceCall} {cs ds : List SurfaceCall}

theorem takes_nil (s : Surface) : s.Takes [] := rfl

theorem takes_cons : s.Takes (c :: cs) ↔ (s.call c).2 = none ∧ (s.call c).1.Takes cs := by
  unfold Takes
  rw [calls, drawn_cons]
  cases hcall : s.call c with
  | mk s₁ fault =>
    cases fault with
    | none => simp
    | some fault => simp

theorem takes_append : s.Takes (cs ++ ds) ↔ s.Takes cs ∧ (s.drawn cs).Takes ds := by
  induction cs generalizing s with
  | nil => simp [takes_nil]
  | cons c cs ih => rw [List.cons_append, takes_cons, takes_cons, ih, drawn_cons, and_assoc]

theorem takes_of_onlyRecorders (h : s.onlyRecorders = true) (cs : List SurfaceCall) : s.Takes cs :=
  calls_of_onlyRecorders h cs

theorem fault_callAll : (callAll c members).2 = none ↔ ∀ s ∈ members, (s.call c).2 = none := by
  induction members with
  | nil => simp [callAll]
  | cons s rest ih =>
    rw [List.forall_mem_cons, ← ih, callAll]
    cases hcall : s.call c with
    | mk s₁ fault =>
      cases fault with
      | none => simp
      | some fault => simp

theorem callAll_of_none (h : ∀ s ∈ members, (s.call c).2 = none) :
    (callAll c members).1 = members.map fun s => (s.call c).1 := by
  induction members with
  | nil => rfl
  | cons s rest ih =>
    rw [List.forall_mem_cons] at h
    rw [callAll, List.map_cons, ← ih h.2]
    cases hcall : s.call c with
    | mk s₁ fault =>
      rw [hcall] at h
      obtain ⟨rfl, -⟩ := h
      rfl

theorem takes_fanOut : (fanOut members).Takes cs ↔ ∀ s ∈ members, s.Takes cs := by
  induction cs generalizing members with
  | nil => simp [takes_nil]
  | cons c cs ih =>
    have hfault : ((fanOut members).call c).2 = none ↔ ∀ s ∈ members, (s.call c).2 = none := fault_callAll
    simp only [takes_cons, hfault, forall_and]
    refine and_congr_right fun h => ?_
    have hcall : ((fanOut members).call c).1 = fanOut (members.map fun s => (s.call c).1) :=
      congrArg fanOut (callAll_of_none h)
    rw [hcall, ih, List.forall_mem_map]

theorem drawn_fanOut (h : ∀ s ∈ members, s.Takes cs) :
    (fanOut members).drawn cs = fanOut (members.map fun s => s.drawn cs) := by
  induction cs generalizing members with
  | nil => simp
  | cons c cs ih =>
    have hnone : ∀ s ∈ members, (s.call c).2 = none := fun s hs => (takes_cons.mp (h s hs)).1
    have hcall : ((fanOut members).call c).1 = fanOut (members.map fun s => (s.call c).1) :=
      congrArg fanOut (callAll_of_none hnone)
    rw [drawn_cons, hcall, ih, List.map_map]
    · rfl
    · rw [List.forall_mem_map]
      exact fun s hs => (takes_cons.mp (h s hs)).2

mutual

/-- A tree with each leaf exchanged for what a function makes of it. -/
def mapLeaves (f : Surface → Surface) : Surface → Surface
  | .recorder r => f (.recorder r)
  | .raster q => f (.raster q)
  | .fanOut members => .fanOut (mapAllLeaves f members)
termination_by structural s => s

def mapAllLeaves (f : Surface → Surface) : List Surface → List Surface
  | [] => []
  | s :: rest => s.mapLeaves f :: mapAllLeaves f rest
termination_by structural members => members

end

mutual

/-- A tree that refuses nothing is left with every leaf as the calls leave that leaf by itself. -/
theorem drawn_eq_mapLeaves {f : Surface → Surface} (hf : ∀ leaf, leaf.Takes cs → leaf.drawn cs = f leaf) :
    ∀ {s : Surface}, s.Takes cs → s.drawn cs = s.mapLeaves f
  | .recorder r, h => hf _ h
  | .raster q, h => hf _ h
  | .fanOut members, h => by
    have hall := takes_fanOut.mp h
    rw [drawn_fanOut hall, drawnAll_eq_mapAllLeaves hf hall, mapLeaves]
termination_by structural s => s

theorem drawnAll_eq_mapAllLeaves {f : Surface → Surface} (hf : ∀ leaf, leaf.Takes cs → leaf.drawn cs = f leaf) :
    ∀ {members : List Surface}, (∀ s ∈ members, s.Takes cs) →
      members.map (fun s => s.drawn cs) = mapAllLeaves f members
  | [], _ => rfl
  | s :: rest, h => by
    rw [List.forall_mem_cons] at h
    rw [List.map_cons, drawn_eq_mapLeaves hf h.1, drawnAll_eq_mapAllLeaves hf h.2, mapAllLeaves]
termination_by structural members => members

end

end TurtleGraphics.Surface
