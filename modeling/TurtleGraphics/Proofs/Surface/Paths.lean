import Mathlib.Tactic
import TurtleGraphics.Proofs.Surface.Kept

/-! The form of a recorder. Whatever calls it gets, its paths are joined where they can be, every line is kept once, and
a segment that was committed stays where it is. -/

namespace TurtleGraphics

/-- A path that does not go on from another: it starts at a mark that is not equal to the end of the other. -/
def Polyline.Apart (path next : Polyline) : Prop :=
  ∀ last ∈ path.getLast?, ∀ first ∈ next.head?, last.same first = false

def SurfaceCall.isLine : SurfaceCall → Bool
  | .lineTo _ => true
  | _ => false

namespace Recorder

/-- Whether a call commits a stroke: it asks for one, and there are pending marks. -/
def commits (r : Recorder) : SurfaceCall → Bool
  | .stroke => !r.pending.isEmpty
  | _ => false

def commitCount (r : Recorder) : List SurfaceCall → Nat
  | [] => 0
  | c :: rest => (r.commits c).toNat + (r.take c).commitCount rest

/-- The form of a recorder that was sent a number of lines and has committed a number of strokes. -/
structure IsTidy (lines commits : Nat) (r : Recorder) : Prop where
  paths : ∀ path ∈ r.paths, 2 ≤ path.length
  apart : r.paths.IsChain Polyline.Apart
  pending : r.pending = [] ∨ 2 ≤ r.pending.length
  strokes : r.strokes = commits
  paths_le : r.paths.length ≤ r.strokes
  lines : r.segments.length + r.pending.segments.length = lines

theorem isTidy_empty : IsTidy 0 0 .empty := ⟨nofun, .nil, .inl rfl, rfl, Nat.le_refl 0, rfl⟩

section join

variable {continuing : Bool} {first : Mark} {rest : Polyline} {paths : List Polyline}

theorem two_le_length_of_join (h : ∀ path ∈ paths, 2 ≤ path.length) (hrest : rest ≠ []) :
    ∀ path ∈ join continuing first rest paths, 2 ≤ path.length := by
  have hpos := List.length_pos_iff.mpr hrest
  rcases join_cases continuing first rest paths with ⟨hjoin, -⟩ | ⟨earlier, last, rfl, -, hjoin⟩
  · rw [hjoin, List.forall_mem_append, List.forall_mem_singleton]
    exact ⟨h, by rw [List.length_cons]; omega⟩
  · rw [List.forall_mem_append, List.forall_mem_singleton] at h
    rw [hjoin, List.forall_mem_append, List.forall_mem_singleton]
    exact ⟨h.1, by rw [List.length_append]; omega⟩

theorem length_join_le (continuing : Bool) (first : Mark) (rest : Polyline) (paths : List Polyline) :
    (join continuing first rest paths).length ≤ paths.length + 1 := by
  rcases join_cases continuing first rest paths with ⟨hjoin, -⟩ | ⟨earlier, last, rfl, -, hjoin⟩
  · simp [hjoin]
  · simp [hjoin]

/-- A stroke starts a path of its own only where it is apart from the last one, and no path changes its start. -/
theorem isChain_join (h : ∀ path ∈ paths, 2 ≤ path.length) (hchain : paths.IsChain Polyline.Apart) :
    (join continuing first rest paths).IsChain Polyline.Apart := by
  rcases join_cases continuing first rest paths with ⟨hjoin, hlast⟩ | ⟨earlier, path, rfl, -, hjoin⟩
  · rw [hjoin, List.isChain_append]
    refine ⟨hchain, .singleton _, ?_⟩
    intro path hpath next hnext last hend start hstart
    cases hnext
    cases hstart
    have hgoes := hlast path hpath
    rw [goesOn, Bool.or_eq_false_iff, Polyline.endsAt, Option.mem_def.mp hend] at hgoes
    exact hgoes.1
  · rw [List.isChain_append] at hchain
    rw [hjoin, List.isChain_append]
    refine ⟨hchain.1, .singleton _, ?_⟩
    intro before hbefore next hnext last hend start hstart
    cases hnext
    have hpath : 2 ≤ path.length := h path (by simp)
    have hhead : start ∈ path.head? := by
      rwa [List.head?_append_of_ne_nil path (List.length_pos_iff.mp (by omega))] at hstart
    exact hchain.2.2 before hbefore path rfl last hend start hhead

/-- What a stroke adds to the segments stands behind them, one segment for each mark but the first. -/
theorem exists_segments_join (h : ∀ path ∈ paths, 2 ≤ path.length) (continuing : Bool) (first : Mark)
    (rest : Polyline) :
    ∃ added, (join continuing first rest paths).flatMap Polyline.segments = paths.flatMap Polyline.segments ++ added ∧
      added.length = rest.length := by
  rcases join_cases continuing first rest paths with ⟨hjoin, -⟩ | ⟨earlier, path, rfl, -, hjoin⟩
  · exact ⟨Polyline.segments (first :: rest), by simp [hjoin], by simp [Polyline.length_segments]⟩
  · have hpath : 2 ≤ path.length := h path (by simp)
    have hne : path ≠ [] := List.length_pos_iff.mp (by omega)
    obtain ⟨last, hlast⟩ := Option.ne_none_iff_exists'.mp (mt List.getLast?_eq_none_iff.mp hne)
    exact ⟨Polyline.segments (last :: rest), by simp [hjoin, Polyline.segments_append hlast],
      by simp [Polyline.length_segments]⟩

end join

variable {lines commits : Nat} {r : Recorder}

theorem IsTidy.lineTo (h : r.IsTidy lines commits) (m : Mark) : (r.lineTo m).IsTidy (lines + 1) commits where
  paths := h.paths
  apart := h.apart
  pending := .inr (two_le_length_extendPending r.pending r.cursor m)
  strokes := h.strokes
  paths_le := h.paths_le
  lines := by
    have hlength := congrArg List.length (lines_lineTo r m)
    unfold Recorder.lines at hlength
    simp only [List.length_append, List.length_singleton, h.lines] at hlength
    exact hlength

theorem IsTidy.stroke (h : r.IsTidy lines commits) :
    r.stroke.IsTidy lines (commits + (!r.pending.isEmpty).toNat) := by
  unfold Recorder.stroke
  split
  · next first second rest hpending =>
    obtain ⟨added, hsegments, hadded⟩ := exists_segments_join h.paths r.continuing first (second :: rest)
    have hlength := length_join_le r.continuing first (second :: rest) r.paths
    have hlines := h.lines
    rw [hpending, Polyline.length_segments] at hlines
    exact {
      paths := two_le_length_of_join h.paths (List.cons_ne_nil second rest)
      apart := isChain_join h.paths h.apart
      pending := .inl rfl
      strokes := by simp [hpending, h.strokes]
      paths_le := Nat.le_trans hlength (Nat.succ_le_succ h.paths_le)
      lines := by
        unfold segments
        rw [hsegments, List.length_append, hadded]
        exact hlines }
  · next hshort =>
    have hnil : r.pending = [] := h.pending.elim id fun hlong => Polyline.eq_nil_of_short (by omega) hshort
    have hlines := h.lines
    rw [hnil] at hlines ⊢
    exact ⟨h.paths, h.apart, .inl rfl, h.strokes, h.paths_le, hlines⟩

/-- One call keeps the form, and counts when it is a line or commits a stroke. -/
theorem IsTidy.take (h : r.IsTidy lines commits) (c : SurfaceCall) :
    (r.take c).IsTidy (lines + c.isLine.toNat) (commits + (r.commits c).toNat) := by
  cases c with
  | moveTo m => exact ⟨h.paths, h.apart, h.pending, h.strokes, h.paths_le, h.lines⟩
  | lineTo m => exact h.lineTo m
  | stroke => exact h.stroke

theorem IsTidy.takeAll (h : r.IsTidy lines commits) (cs : List SurfaceCall) :
    (r.takeAll cs).IsTidy (lines + cs.countP SurfaceCall.isLine) (commits + r.commitCount cs) := by
  induction cs generalizing lines commits r with
  | nil => exact h
  | cons c cs ih =>
    have hrest := ih (h.take c)
    have hlines : (c :: cs).countP SurfaceCall.isLine = c.isLine.toNat + cs.countP SurfaceCall.isLine := by
      rw [List.countP_cons, Nat.add_comm]
      cases c.isLine <;> rfl
    rw [hlines, commitCount, ← Nat.add_assoc, ← Nat.add_assoc]
    exact hrest

theorem IsTidy.segments_prefix_take (h : r.IsTidy lines commits) (c : SurfaceCall) :
    r.segments <+: (r.take c).segments := by
  cases c with
  | moveTo m => exact List.prefix_rfl
  | lineTo m => exact List.prefix_rfl
  | stroke =>
    change r.segments <+: r.stroke.segments
    unfold Recorder.stroke
    split
    · next first second rest _ =>
      obtain ⟨added, hsegments, -⟩ := exists_segments_join h.paths r.continuing first (second :: rest)
      exact ⟨added, hsegments.symm⟩
    · exact List.prefix_rfl

theorem IsTidy.segments_prefix_takeAll (h : r.IsTidy lines commits) (cs : List SurfaceCall) :
    r.segments <+: (r.takeAll cs).segments := by
  induction cs generalizing lines commits r with
  | nil => exact List.prefix_rfl
  | cons c cs ih => exact (h.segments_prefix_take c).trans (ih (h.take c))

theorem calls_recorder (r : Recorder) (cs : List SurfaceCall) :
    (Surface.recorder r).calls cs = (.recorder (r.takeAll cs), none) := by
  rw [Surface.calls_of_onlyRecorders rfl, drawn_recorder]

/-- After any calls, which a fresh recorder takes without a fault, its paths have two marks at least and none goes on
from the one before it, no stroke has a single mark, each stroke call with marks pending was counted, no line is lost or
doubled, and later calls only add segments behind those that are there. -/
theorem tidy_after_calls (cs : List SurfaceCall) :
    ∃ r, (Surface.recorder .empty).calls cs = (.recorder r, none) ∧
      r.IsTidy (cs.countP SurfaceCall.isLine) (empty.commitCount cs) ∧
      ∀ more, ∃ later, (Surface.recorder .empty).calls (cs ++ more) = (.recorder later, none) ∧
        r.segments <+: later.segments := by
  have htidy := isTidy_empty.takeAll cs
  rw [Nat.zero_add, Nat.zero_add] at htidy
  refine ⟨empty.takeAll cs, calls_recorder empty cs, htidy, ?_⟩
  intro more
  refine ⟨empty.takeAll (cs ++ more), calls_recorder empty (cs ++ more), ?_⟩
  rw [takeAll_append]
  exact htidy.segments_prefix_takeAll more

end Recorder

end TurtleGraphics
