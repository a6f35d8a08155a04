import Mathlib.Tactic
import TurtleGraphics.Proofs.Surface.Leaves
import TurtleGraphics.Proofs.Surface.Painting

/-! What recorders keep. No mark of a line is lost, but that a stroke may be joined to an equal mark, so a recorder
whose marks are near has only ever been sent lines that can be painted. Fresh rasters beside it take all its calls. -/

namespace TurtleGraphics

theorem Datum.place?_of_same_left {a b : Datum} {p : Number.Place} (ha : a.place? = some p) (h : a.same b = true) :
    b.place? = some p := by
  obtain ⟨x, hx, hp⟩ := Option.bind_eq_some_iff.mp ha
  have hb : ∃ y, b.number? = some y := by
    cases a with
    | number z =>
      cases b with
      | number y => exact ⟨y, rfl⟩
      | bool c => exact ⟨_, rfl⟩
      | _ => cases h
    | bool d =>
      cases b with
      | number y => exact ⟨y, rfl⟩
      | bool c => exact ⟨_, rfl⟩
      | _ => cases h
    | _ => cases hx
  obtain ⟨y, hy⟩ := hb
  rw [same_of_number? hx hy] at h
  unfold place?
  rw [hy, Option.bind_some, ← Number.place?_of_equals h, hp]

instance (d : Datum) : Decidable d.IsNear :=
  match h : d.place? with
  | some (.at u) =>
    decidable_of_iff (u.natAbs ≤ 100000 * unitsPerOne)
      ⟨fun hu => ⟨u, h, hu⟩, fun ⟨v, hv, hle⟩ => by cases h.symm.trans hv; exact hle⟩
  | some .below => isFalse fun ⟨v, hv, _⟩ => by cases h.symm.trans hv
  | some .above => isFalse fun ⟨v, hv, _⟩ => by cases h.symm.trans hv
  | none => isFalse fun ⟨v, hv, _⟩ => by cases h.symm.trans hv

instance (m : Mark) : Decidable m.IsNear :=
  decidable_of_iff (m.x.IsNear ∧ m.y.IsNear) ⟨fun h => ⟨h.1, h.2⟩, fun h => ⟨h.x, h.y⟩⟩

theorem Mark.IsNear.of_same {a b : Mark} (ha : a.IsNear) (h : a.same b = true) : b.IsNear := by
  obtain ⟨⟨x, hx, hux⟩, ⟨y, hy, huy⟩⟩ := ha
  unfold Mark.same at h
  rw [Bool.and_eq_true] at h
  exact ⟨⟨x, Datum.place?_of_same_left hx h.1, hux⟩, ⟨y, Datum.place?_of_same_left hy h.2, huy⟩⟩

namespace Recorder

/-- The marks of all lines, committed or not. -/
def kept (r : Recorder) : List Mark := r.marks ++ r.pending

def lastEnd (paths : List Polyline) : Option Mark := paths.getLast?.bind List.getLast?

/-- What holds between calls. No stroke has a single mark. The cursor rests at the end of the last line, and a stroke
that goes on without a move starts where the last path ended. -/
structure IsSteady (r : Recorder) : Prop where
  pending : r.pending.length ≠ 1
  resting : r.resting = true → r.pending.getLast?.or (lastEnd r.paths) = some r.cursor
  continuing : r.continuing = true → ∀ first rest, r.pending = first :: rest → lastEnd r.paths = some first

theorem isSteady_empty : IsSteady .empty := ⟨nofun, nofun, nofun⟩

variable {continuing : Bool} {first : Mark} {rest : Polyline} {paths : List Polyline}

theorem lastEnd_join (hrest : rest ≠ []) : lastEnd (join continuing first rest paths) = rest.getLast? := by
  unfold lastEnd
  rcases join_cases continuing first rest paths with ⟨hjoin, -⟩ | ⟨earlier, path, -, -, hjoin⟩
  · rw [hjoin, List.getLast?_concat]
    exact List.getLast?_append_of_ne_nil [first] hrest
  · rw [hjoin, List.getLast?_concat]
    exact List.getLast?_append_of_ne_nil path hrest

theorem mem_join {m : Mark} (h : m ∈ paths.flatten ∨ m ∈ rest) : m ∈ (join continuing first rest paths).flatten := by
  rcases join_cases continuing first rest paths with ⟨hjoin, -⟩ | ⟨earlier, path, rfl, -, hjoin⟩
  · simp only [hjoin, List.flatten_append, List.flatten_cons, List.flatten_nil, List.append_nil, List.mem_append,
      List.mem_cons]
    exact h.imp_right .inr
  · simp only [List.flatten_append, List.flatten_cons, List.flatten_nil, List.append_nil, List.mem_append] at h
    simp only [hjoin, List.flatten_append, List.flatten_cons, List.flatten_nil, List.append_nil, List.mem_append]
    exact or_assoc.mp h

/-- The first mark of a stroke is only left out where the stroke goes on from the last path. -/
theorem first_mem_join (continuing : Bool) (first : Mark) (rest : Polyline) (paths : List Polyline) :
    first ∈ (join continuing first rest paths).flatten ∨
      ∃ path, paths.getLast? = some path ∧ goesOn continuing path first = true := by
  rcases join_cases continuing first rest paths with ⟨hjoin, -⟩ | ⟨earlier, path, rfl, hgoes, -⟩
  · exact .inl (by simp [hjoin])
  · exact .inr ⟨path, List.getLast?_concat, hgoes⟩

variable {r : Recorder} {c : SurfaceCall}

theorem IsSteady.lineTo (h : r.IsSteady) (m : Mark) : (r.lineTo m).IsSteady where
  pending := by
    have hlength := two_le_length_extendPending r.pending r.cursor m
    change (extendPending r.pending r.cursor m).length ≠ 1
    omega
  resting := by
    intro _
    change (extendPending r.pending r.cursor m).getLast?.or _ = some m
    rw [getLast?_extendPending]
    rfl
  continuing := by
    intro hcontinuing first rest hpending
    change extendPending r.pending r.cursor m = first :: rest at hpending
    change (if r.pending.isEmpty then r.resting else r.continuing) = true at hcontinuing
    cases hold : r.pending with
    | nil =>
      rw [hold] at hpending hcontinuing
      have hrests := h.resting hcontinuing
      rw [hold] at hrests
      cases hpending
      exact hrests
    | cons a more =>
      rw [hold] at hpending hcontinuing
      cases hpending
      exact h.continuing hcontinuing first more hold

theorem IsSteady.stroke (h : r.IsSteady) : r.stroke.IsSteady := by
  unfold Recorder.stroke
  split
  · next first second rest hpending =>
    refine ⟨nofun, ?_, nofun⟩
    intro hresting
    have hcursor := h.resting hresting
    rw [hpending, List.getLast?_cons_cons, List.getLast?_cons] at hcursor
    dsimp only
    rw [lastEnd_join (List.cons_ne_nil second rest), List.getLast?_cons]
    exact hcursor
  · next hshort =>
    have hnil := Polyline.eq_nil_of_short h.pending hshort
    refine ⟨nofun, ?_, nofun⟩
    intro hresting
    have hcursor := h.resting hresting
    rw [hnil] at hcursor
    exact hcursor

theorem IsSteady.take (h : r.IsSteady) (c : SurfaceCall) : (r.take c).IsSteady := by
  cases c with
  | moveTo m => exact ⟨h.pending, nofun, h.continuing⟩
  | lineTo m => exact h.lineTo m
  | stroke => exact h.stroke

/-- A first mark that is left out equals a mark that is kept, or does not equal itself and is kept already. -/
theorem IsSteady.isNear_first {second : Mark} (h : r.IsSteady) (hpending : r.pending = first :: second :: rest)
    (hnear : ∀ m ∈ (join r.continuing first (second :: rest) r.paths).flatten, m.IsNear) : first.IsNear := by
  rcases first_mem_join r.continuing first (second :: rest) r.paths with hmem | ⟨path, hpath, hgoes⟩
  · exact hnear first hmem
  · have hlast : ∀ last, path.getLast? = some last → last.IsNear := by
      intro last hlast
      refine hnear last (mem_join (.inl ?_))
      exact List.mem_flatten.mpr ⟨path, List.mem_of_getLast? hpath, List.mem_of_getLast? hlast⟩
    simp only [goesOn, Bool.or_eq_true, Bool.and_eq_true] at hgoes
    rcases hgoes with hends | ⟨hcontinuing, -⟩
    · unfold Polyline.endsAt at hends
      split at hends
      · next last hlast' => exact (hlast last hlast').of_same hends
      · cases hends
    · have hstart := h.continuing hcontinuing first _ hpending
      rw [lastEnd, hpath, Option.bind_some] at hstart
      exact hlast first hstart

/-- What a recorder keeps after a call was near before it, if it is near now. -/
theorem IsSteady.isNear_of_take (h : r.IsSteady) (c : SurfaceCall) (hnear : ∀ m ∈ (r.take c).kept, m.IsNear) :
    ∀ m ∈ r.kept, m.IsNear := by
  cases c with
  | moveTo m => exact hnear
  | lineTo m =>
    intro n hn
    apply hnear n
    change n ∈ r.marks ++ extendPending r.pending r.cursor m
    rw [kept, List.mem_append] at hn
    rw [List.mem_append]
    refine hn.imp_right fun hn => ?_
    unfold extendPending
    split
    · next hnil =>
      rw [hnil] at hn
      cases hn
    · exact List.mem_append_left _ hn
  | stroke =>
    change ∀ m ∈ r.stroke.kept, m.IsNear at hnear
    unfold Recorder.stroke at hnear
    split at hnear
    · next first second rest hpending =>
      simp only [kept, marks, List.append_nil] at hnear
      simp only [kept, marks, hpending, List.forall_mem_append, List.forall_mem_cons]
      exact ⟨fun m hm => hnear m (mem_join (.inl hm)), h.isNear_first hpending hnear,
        hnear second (mem_join (.inr List.mem_cons_self)),
        fun m hm => hnear m (mem_join (.inr (List.mem_cons_of_mem second hm)))⟩
    · next hshort =>
      rw [kept, Polyline.eq_nil_of_short h.pending hshort]
      exact hnear

theorem IsSteady.isNear_of_takeAll (h : r.IsSteady) {cs : List SurfaceCall}
    (hnear : ∀ m ∈ (r.takeAll cs).kept, m.IsNear) : ∀ m ∈ r.kept, m.IsNear := by
  induction cs generalizing r with
  | nil => exact hnear
  | cons c cs ih => exact h.isNear_of_take c (ih (h.take c) hnear)

end Recorder

/-- A raster that can paint lines, beside a recorder that got the same calls. -/
structure Raster.Follows (q : Raster) (r : Recorder) : Prop where
  accepts : @Imaging.Accepts q.library q.ink
  lineWidth : q.lineWidth = 1
  cursor : q.cursor = r.cursor
  pending : q.pending = r.pending

namespace Raster

variable {q : Raster} {r : Recorder}

theorem Follows.stroke (h : q.Follows r) (hnear : ∀ m ∈ r.pending, m.IsNear) :
    q.stroke.2 = none ∧ q.stroke.1.Follows r.stroke := by
  have hcursor : q.cursor = r.stroke.cursor := h.cursor.trans (Recorder.cursor_stroke r).symm
  have hnone : [] = r.stroke.pending := (Recorder.pending_stroke r).symm
  by_cases hshort : ∀ first second rest, q.pending ≠ first :: second :: rest
  · rw [stroke_of_short hshort]
    exact ⟨rfl, h.accepts, h.lineWidth, hcursor, hnone⟩
  · push Not at hshort
    obtain ⟨first, second, rest, hpending⟩ := hshort
    obtain ⟨painted, hpainted⟩ := h.accepts q.image (by rw [hpending]; simp) (h.pending ▸ hnear)
    have hline : q.line q.image q.pending = .ok painted := by
      unfold line
      rw [h.lineWidth]
      exact hpainted
    rw [stroke_of_line hpending hline]
    exact ⟨rfl, h.accepts, h.lineWidth, hcursor, hnone⟩

theorem Follows.call (h : q.Follows r) (hnear : ∀ m ∈ r.pending, m.IsNear) (c : SurfaceCall) :
    ∃ q', (Surface.raster q).call c = (.raster q', none) ∧ q'.Follows (r.take c) := by
  cases c with
  | moveTo m => exact ⟨q.moveTo m, rfl, h.accepts, h.lineWidth, rfl, h.pending⟩
  | lineTo m =>
    refine ⟨q.lineTo m, rfl, h.accepts, h.lineWidth, rfl, ?_⟩
    change Recorder.extendPending q.pending q.cursor m = Recorder.extendPending r.pending r.cursor m
    rw [h.pending, h.cursor]
  | stroke =>
    obtain ⟨hnone, hfollows⟩ := h.stroke hnear
    refine ⟨q.stroke.1, ?_, hfollows⟩
    change (Surface.raster q.stroke.1, q.stroke.2) = _
    rw [hnone]

/-- A raster takes all calls after which the recorder beside it keeps only marks that are near. -/
theorem Follows.takes (h : q.Follows r) (hr : r.IsSteady) {cs : List SurfaceCall}
    (hnear : ∀ m ∈ (r.takeAll cs).kept, m.IsNear) : (Surface.raster q).Takes cs := by
  induction cs generalizing q r with
  | nil => exact Surface.takes_nil _
  | cons c cs ih =>
    have hkept := hr.isNear_of_takeAll hnear
    obtain ⟨q', hcall, hfollows⟩ := h.call (fun m hm => hkept m (List.mem_append_right r.marks hm)) c
    rw [Surface.takes_cons, hcall]
    exact ⟨rfl, ih hfollows (hr.take c) hnear⟩

end Raster

namespace Surface

/-- Trees of fresh recorders and of fresh rasters that can paint lines of width one with their ink. -/
inductive IsFresh : Surface → Prop where
  | recorder : IsFresh (.recorder .empty)
  | raster [Imaging] {width height : Int} {background ink : LooseText} {q : Raster} :
      Raster.make width height background ink 1 = .ok q → Imaging.Accepts ink → IsFresh (.raster q)
  | fanOut {members : List Surface} : (∀ s ∈ members, IsFresh s) → IsFresh (.fanOut members)

def kept : Surface → List Mark
  | .recorder r => r.kept
  | _ => []

theorem takes_of_isFresh {s : Surface} (hs : s.IsFresh) {cs : List SurfaceCall}
    (hnear : ∀ m ∈ ((recorder .empty).drawn cs).kept, m.IsNear) : s.Takes cs := by
  rw [Recorder.drawn_recorder] at hnear
  induction hs with
  | recorder => exact takes_of_onlyRecorders rfl cs
  | raster hmake hink =>
    obtain ⟨blank, -, rfl⟩ := Raster.make_ok hmake
    exact Raster.Follows.takes ⟨hink, rfl, rfl, rfl⟩ Recorder.isSteady_empty hnear
  | fanOut _ ih => exact takes_fanOut.mpr ih

end Surface

end TurtleGraphics
