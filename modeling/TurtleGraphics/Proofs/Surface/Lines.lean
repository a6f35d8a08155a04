import Mathlib.Tactic
import TurtleGraphics.Proofs.Surface.Recorder

/-! The lines that a recorder keeps. Inside a stroke a line goes on from the end of the one before it, wherever the
cursor was moved between them. -/

namespace TurtleGraphics

def Datum.place? (d : Datum) : Option Number.Place := d.number?.bind Number.place?

namespace Mark

/-- Where the two coordinates stand. Marks that are equal as numbers have the same places. -/
def places (m : Mark) : Option Number.Place × Option Number.Place := (m.x.place?, m.y.place?)

/-- A mark whose coordinates are integers of any size or finite binary64 numbers. -/
def IsFinite (m : Mark) : Prop := ∃ x y, m.places = (some (.at x), some (.at y))

end Mark

/-- Where the two ends of a line stand. -/
def linePlaces (line : Mark × Mark) : (Option Number.Place × Option Number.Place) ×
    (Option Number.Place × Option Number.Place) := (line.1.places, line.2.places)

namespace SurfaceCall

def mark? : SurfaceCall → Option Mark
  | .moveTo m | .lineTo m => some m
  | .stroke => none

def IsFinite : SurfaceCall → Prop
  | .moveTo m | .lineTo m => m.IsFinite
  | .stroke => True

/-- The lines of calls, each from where the cursor is. -/
def cursorLines (cursor : Mark) : List SurfaceCall → List (Mark × Mark)
  | [] => []
  | .moveTo m :: rest => cursorLines m rest
  | .lineTo m :: rest => (cursor, m) :: cursorLines m rest
  | .stroke :: rest => cursorLines cursor rest

/-- The lines of calls, each from the end of the last line of its stroke, and only the first of a stroke from where the
cursor is. -/
def strokeLines (last : Option Mark) (cursor : Mark) : List SurfaceCall → List (Mark × Mark)
  | [] => []
  | .moveTo m :: rest => strokeLines last m rest
  | .lineTo m :: rest => (last.getD cursor, m) :: strokeLines (some m) m rest
  | .stroke :: rest => strokeLines none cursor rest

/-- Whenever a line goes on with a stroke, the cursor stands where the stroke ended. -/
def MeetInStrokes (last : Option Mark) (cursor : Mark) : List SurfaceCall → Prop
  | [] => True
  | .moveTo m :: rest => MeetInStrokes last m rest
  | .lineTo m :: rest => (∀ l ∈ last, l.places = cursor.places) ∧ MeetInStrokes (some m) m rest
  | .stroke :: rest => MeetInStrokes none cursor rest

/-- The two ways of drawing differ exactly where a cursor was moved away inside a stroke. -/
theorem strokeLines_eq_iff (last : Option Mark) (cursor : Mark) (cs : List SurfaceCall) :
    (strokeLines last cursor cs).map linePlaces = (cursorLines cursor cs).map linePlaces ↔
      MeetInStrokes last cursor cs := by
  induction cs generalizing last cursor with
  | nil => exact ⟨fun _ => trivial, fun _ => rfl⟩
  | cons c cs ih =>
    cases c with
    | moveTo m => exact ih last m
    | stroke => exact ih none cursor
    | lineTo m =>
      simp only [strokeLines, cursorLines, MeetInStrokes, List.map_cons, List.cons.injEq, ih, linePlaces,
        Prod.mk.injEq, and_true]
      cases last with
      | none => simp
      | some l => simp

end SurfaceCall

namespace Number

theorem place?_of_equals {x y : Number} (h : x.equals y = true) : x.place? = y.place? := by
  unfold equals at h
  rw [Bool.and_eq_true] at h
  exact of_decide_eq_true h.2

theorem equals_of_place? {x y : Number} {p : Place} (hx : x.place? = some p) (hy : y.place? = some p) :
    x.equals y = true := by
  simp [equals, hx, hy]

end Number

namespace Datum

/-- What equals a number is a number, or a truth value that counts as one. -/
theorem equals_of_same {a b : Datum} {y : Number} (hb : b.number? = some y) (h : a.same b = true) :
    ∃ x, a.number? = some x ∧ x.equals y = true := by
  cases b with
  | number z =>
    cases hb
    cases a with
    | number x => exact ⟨x, rfl, h⟩
    | bool c => exact ⟨_, rfl, h⟩
    | _ => cases h
  | bool b =>
    cases hb
    cases a with
    | number x => exact ⟨x, rfl, h⟩
    | bool c => exact ⟨_, rfl, h⟩
    | _ => cases h
  | _ => cases hb

theorem same_of_number? {a b : Datum} {x y : Number} (ha : a.number? = some x) (hb : b.number? = some y) :
    a.same b = x.equals y := by
  cases a with
  | number z =>
    cases ha
    cases b with
    | number w => cases hb; rfl
    | bool c => cases hb; rfl
    | _ => cases hb
  | bool d =>
    cases ha
    cases b with
    | number w => cases hb; rfl
    | bool c => cases hb; rfl
    | _ => cases hb
  | _ => cases ha

theorem place?_of_same {a b : Datum} {p : Number.Place} (hb : b.place? = some p) (h : a.same b = true) :
    a.place? = some p := by
  obtain ⟨y, hy, hp⟩ := Option.bind_eq_some_iff.mp hb
  obtain ⟨x, hx, hequals⟩ := equals_of_same hy h
  unfold place?
  rw [hx, Option.bind_some, Number.place?_of_equals hequals, hp]

theorem same_self {d : Datum} {p : Number.Place} (h : d.place? = some p) : d.same d = true := by
  obtain ⟨x, hx, hp⟩ := Option.bind_eq_some_iff.mp h
  rw [same_of_number? hx hx]
  exact Number.equals_of_place? hp hp

end Datum

namespace Mark

theorem IsFinite.same_self {m : Mark} (h : m.IsFinite) : m.same m = true := by
  obtain ⟨x, y, hplaces⟩ := h
  obtain ⟨hx, hy⟩ := Prod.mk.inj hplaces
  unfold same
  rw [Datum.same_self hx, Datum.same_self hy]
  rfl

theorem IsFinite.places_of_same {a b : Mark} (hb : b.IsFinite) (h : a.same b = true) : a.places = b.places := by
  obtain ⟨x, y, hplaces⟩ := hb
  obtain ⟨hx, hy⟩ := Prod.mk.inj hplaces
  unfold same at h
  rw [Bool.and_eq_true] at h
  unfold places
  rw [Datum.place?_of_same hx h.1, Datum.place?_of_same hy h.2, hx, hy]

theorem isFinite_origin : IsFinite .origin := ⟨0, 0, by decide +kernel⟩

end Mark

namespace Recorder

def take (r : Recorder) : SurfaceCall → Recorder
  | .moveTo m => r.moveTo m
  | .lineTo m => r.lineTo m
  | .stroke => r.stroke

def takeAll (r : Recorder) (cs : List SurfaceCall) : Recorder := cs.foldl take r

theorem takeAll_append (r : Recorder) (cs ds : List SurfaceCall) :
    r.takeAll (cs ++ ds) = (r.takeAll cs).takeAll ds := List.foldl_append

theorem call_recorder (r : Recorder) (c : SurfaceCall) :
    (Surface.recorder r).call c = (.recorder (r.take c), none) := by
  cases c <;> rfl

theorem drawn_recorder (r : Recorder) (cs : List SurfaceCall) :
    (Surface.recorder r).drawn cs = .recorder (r.takeAll cs) := by
  induction cs generalizing r with
  | nil => rfl
  | cons c cs ih =>
    rw [Surface.drawn_cons, call_recorder]
    exact ih (r.take c)

/-- The lines that were committed, and behind them those of the stroke that is being drawn. -/
def lines (r : Recorder) : List (Mark × Mark) := r.segments ++ r.pending.segments

/-- The marks that are still in use have a property. -/
structure Uses (P : Mark → Prop) (r : Recorder) : Prop where
  cursor : P r.cursor
  pending : ∀ m ∈ r.pending, P m

structure IsFinite (r : Recorder) : Prop where
  cursor : r.cursor.IsFinite
  pending : ∀ m ∈ r.pending, m.IsFinite

theorem isFinite_empty : IsFinite .empty := ⟨Mark.isFinite_origin, nofun⟩

theorem mem_extendPending {pending : Polyline} {cursor m n : Mark} (h : n ∈ extendPending pending cursor m) :
    n ∈ pending ∨ n = cursor ∨ n = m := by
  unfold extendPending at h
  split at h
  · simpa using h
  · simp only [List.mem_append, List.mem_singleton] at h
    tauto

theorem getLast?_extendPending (pending : Polyline) (cursor m : Mark) :
    (extendPending pending cursor m).getLast? = some m := by
  unfold extendPending
  split
  · rfl
  · exact List.getLast?_concat

theorem two_le_length_extendPending (pending : Polyline) (cursor m : Mark) :
    2 ≤ (extendPending pending cursor m).length := by
  cases pending with
  | nil => exact Nat.le_refl 2
  | cons first rest =>
    change 2 ≤ ((first :: rest) ++ [m]).length
    simp

theorem segments_of_short {path : Polyline} (h : ∀ first second rest, path ≠ first :: second :: rest) :
    path.segments = [] := by
  match path with
  | [] => rfl
  | [m] => rfl
  | first :: second :: rest => exact absurd rfl (h first second rest)

theorem stroke_of_short {r : Recorder} (h : ∀ first second rest, r.pending ≠ first :: second :: rest) :
    r.stroke = { r with pending := [] } := by
  unfold stroke
  split
  · next first second rest hpending => exact absurd hpending (h first second rest)
  · rfl

theorem pending_stroke (r : Recorder) : r.stroke.pending = [] := by
  unfold stroke
  split
  · rfl
  · rfl

theorem cursor_stroke (r : Recorder) : r.stroke.cursor = r.cursor := by
  unfold stroke
  split
  · rfl
  · rfl

theorem Uses.take {P : Mark → Prop} {r : Recorder} (hr : r.Uses P) {c : SurfaceCall} (hc : ∀ m ∈ c.mark?, P m) :
    (r.take c).Uses P := by
  cases c with
  | moveTo m => exact ⟨hc m rfl, hr.pending⟩
  | lineTo m =>
    refine ⟨hc m rfl, ?_⟩
    intro n hn
    rcases mem_extendPending hn with h | rfl | rfl
    · exact hr.pending n h
    · exact hr.cursor
    · exact hc n rfl
  | stroke =>
    change r.stroke.Uses P
    refine ⟨?_, ?_⟩
    · rw [cursor_stroke]
      exact hr.cursor
    · rw [pending_stroke]
      exact nofun

theorem lines_stroke_eq (r : Recorder) : r.stroke.lines = r.stroke.segments := by
  unfold lines
  rw [pending_stroke]
  exact List.append_nil _

theorem lines_lineTo (r : Recorder) (m : Mark) :
    (r.lineTo m).lines = r.lines ++ [(r.pending.getLast?.getD r.cursor, m)] := by
  unfold lines
  change r.segments ++ (extendPending r.pending r.cursor m).segments = _
  cases hpending : r.pending with
  | nil => simp [extendPending, Polyline.segments]
  | cons first rest =>
    have hlast := List.getLast?_eq_some_getLast (List.cons_ne_nil first rest)
    have happend := Polyline.segments_append hlast [m]
    rw [hlast, List.append_assoc]
    exact congrArg (r.segments ++ ·) happend

variable {r : Recorder} (hr : r.IsFinite)

include hr

theorem IsFinite.take {c : SurfaceCall} (hc : c.IsFinite) : (r.take c).IsFinite := by
  have hmark : ∀ m ∈ c.mark?, m.IsFinite := by
    cases c with
    | moveTo n => rintro m ⟨⟩; exact hc
    | lineTo n => rintro m ⟨⟩; exact hc
    | stroke => rintro m ⟨⟩
  obtain ⟨hcursor, hpending⟩ := Uses.take ⟨hr.cursor, hr.pending⟩ hmark
  exact ⟨hcursor, hpending⟩

theorem IsFinite.takeAll {cs : List SurfaceCall} (h : ∀ c ∈ cs, c.IsFinite) : (r.takeAll cs).IsFinite := by
  induction cs generalizing r with
  | nil => exact hr
  | cons c cs ih => exact ih (hr.take (h c List.mem_cons_self)) fun d hd => h d (List.mem_cons_of_mem c hd)

/-- Committing a stroke changes no line, but that one of them may start from an equal mark of the path it joins. -/
theorem IsFinite.lines_stroke : r.stroke.lines.map linePlaces = r.lines.map linePlaces := by
  unfold stroke
  split
  · next first second rest hpending =>
    have hfirst : first.IsFinite := hr.pending first (by rw [hpending]; exact List.mem_cons_self)
    obtain ⟨start, hstart, hsegments⟩ := segments_join hfirst.same_self r.continuing (second :: rest) r.paths
    have hplaces := hfirst.places_of_same hstart
    unfold lines segments
    dsimp only
    rw [hsegments, hpending, Polyline.segments_cons_cons, Polyline.segments_cons_cons]
    simp [linePlaces, hplaces, Polyline.segments]
  · next hshort =>
    unfold lines
    rw [segments_of_short hshort]
    rfl

theorem IsFinite.lines_takeAll {cs : List SurfaceCall} (h : ∀ c ∈ cs, c.IsFinite) :
    (r.takeAll cs).lines.map linePlaces =
      (r.lines ++ SurfaceCall.strokeLines r.pending.getLast? r.cursor cs).map linePlaces := by
  -- Induction on the calls for every recorder: where the next line starts is read off the pending marks.
  induction cs generalizing r with
  | nil =>
    rw [SurfaceCall.strokeLines, List.append_nil]
    rfl
  | cons c cs ih =>
    have hc := h c List.mem_cons_self
    have hrest := ih (hr.take hc) fun d hd => h d (List.mem_cons_of_mem c hd)
    change ((r.take c).takeAll cs).lines.map linePlaces = _
    rw [hrest]
    cases c with
    | moveTo m => rfl
    | lineTo m =>
      change ((r.lineTo m).lines ++
        SurfaceCall.strokeLines (extendPending r.pending r.cursor m).getLast? m cs).map linePlaces = _
      rw [lines_lineTo, getLast?_extendPending, SurfaceCall.strokeLines, List.append_assoc]
      rfl
    | stroke =>
      change (r.stroke.lines ++
        SurfaceCall.strokeLines r.stroke.pending.getLast? r.stroke.cursor cs).map linePlaces = _
      rw [List.map_append, hr.lines_stroke, pending_stroke, cursor_stroke, ← List.map_append]
      rfl

end Recorder

namespace SurfaceCall

/-- Calls that end with a stroke leave, as numbers, one segment for each line. The first line of a stroke starts at the
cursor, and each other one where the line before it ended. The segments are those that the cursor would have drawn
exactly when it was not moved away inside a stroke. -/
theorem segments_after_stroke (cs : List SurfaceCall) (h : ∀ c ∈ cs, c.IsFinite) :
    ∃ r, (Surface.recorder .empty).drawn (cs ++ [.stroke]) = .recorder r ∧
      r.segments.map linePlaces = (strokeLines none .origin cs).map linePlaces ∧
      (r.segments.map linePlaces = (cursorLines .origin cs).map linePlaces ↔ MeetInStrokes none .origin cs) := by
  have hempty := Recorder.isFinite_empty
  have hlines : (Recorder.empty.takeAll cs).stroke.segments.map linePlaces =
      (strokeLines none .origin cs).map linePlaces := by
    have hstroke := (hempty.takeAll h).lines_stroke
    rw [Recorder.lines_stroke_eq] at hstroke
    exact hstroke.trans (hempty.lines_takeAll h)
  refine ⟨(Recorder.empty.takeAll cs).stroke, ?_, hlines, ?_⟩
  · rw [Surface.drawn_append, Recorder.drawn_recorder]
    rfl
  · rw [hlines]
    exact strokeLines_eq_iff none .origin cs

theorem isFinite_int (x y : Int) : (Mark.ofPoint ⟨.int x, .int y⟩).IsFinite := ⟨_, _, rfl⟩

/-- A stroke of two lines, and behind a move a line of its own. -/
def twoStrokes : List SurfaceCall :=
  [.lineTo (.ofPoint ⟨.int 1, .int 0⟩), .lineTo (.ofPoint ⟨.int 1, .int 1⟩), .stroke,
    .moveTo (.ofPoint ⟨.int 5, .int 5⟩), .lineTo (.ofPoint ⟨.int 6, .int 5⟩)]

theorem segments_twoStrokes :
    (∀ c ∈ twoStrokes, c.IsFinite) ∧
    ∃ r, (Surface.recorder .empty).drawn (twoStrokes ++ [.stroke]) = .recorder r ∧
      r.segments.map linePlaces = (cursorLines .origin twoStrokes).map linePlaces := by
  have hfinite : ∀ c ∈ twoStrokes, c.IsFinite := by
    simp only [twoStrokes, List.forall_mem_cons, List.not_mem_nil, false_implies, implies_true, and_true]
    exact ⟨isFinite_int 1 0, isFinite_int 1 1, trivial, isFinite_int 5 5, isFinite_int 6 5⟩
  obtain ⟨r, hr, -, hiff⟩ := segments_after_stroke twoStrokes hfinite
  have hmeet : MeetInStrokes none .origin twoStrokes := by
    simp [twoStrokes, MeetInStrokes]
  exact ⟨hfinite, r, hr, hiff.mpr hmeet⟩

/-- Two lines of one stroke with the cursor moved between them. -/
def detour : List SurfaceCall :=
  [.lineTo (.ofPoint ⟨.int 1, .int 0⟩), .moveTo (.ofPoint ⟨.int 5, .int 5⟩), .lineTo (.ofPoint ⟨.int 6, .int 5⟩)]

/-- The second line of the detour starts at the end of the first, not at the cursor. -/
theorem detour_ne_cursorLines :
    ¬ ∀ cs : List SurfaceCall, (∀ c ∈ cs, c.IsFinite) →
      ∃ r, (Surface.recorder .empty).drawn (cs ++ [.stroke]) = .recorder r ∧
        r.segments.map linePlaces = (cursorLines .origin cs).map linePlaces := by
  intro hall
  have hfinite : ∀ c ∈ detour, c.IsFinite := by
    simp only [detour, List.forall_mem_cons, List.not_mem_nil, false_implies, implies_true, and_true]
    exact ⟨isFinite_int 1 0, isFinite_int 5 5, isFinite_int 6 5⟩
  obtain ⟨r, hr, hsame⟩ := hall detour hfinite
  rw [Recorder.drawn_recorder] at hr
  cases hr
  exact absurd hsame (by decide +kernel)

end SurfaceCall

end TurtleGraphics
