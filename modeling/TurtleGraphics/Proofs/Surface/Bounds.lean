import Mathlib.Tactic
import TurtleGraphics.Proofs.Surface.Paths

/-! The bounds of what a recorder has drawn. They hold every mark of the paths, each of their sides is reached by one,
and they only grow, because no mark that was committed is lost. -/

namespace TurtleGraphics

namespace Number

theorem lt_of_place {x y : Number} {u v : Int} (hx : x.place? = some (.at u)) (hy : y.place? = some (.at v)) :
    x.lt y = decide (u < v) := by
  unfold lt
  rw [hx, hy]
  change (!decide (v ≤ u)) = decide (u < v)
  rw [← decide_not]
  exact decide_eq_decide.mpr Int.not_le

end Number

namespace Datum

/-- Both data are finite numbers, and the first is not above the second. -/
def AtMost (a b : Datum) : Prop := ∃ u v : Int, a.place? = some (.at u) ∧ b.place? = some (.at v) ∧ u ≤ v

/-- In an order from below a datum leads those above it, in one from above those below it. -/
def Leads : Order → Datum → Datum → Prop
  | .less, a, b => a.AtMost b
  | .greater, a, b => b.AtMost a

variable {order : Order} {a b c : Datum} {u v : Int}

theorem AtMost.refl (h : a.place? = some (.at u)) : a.AtMost a := ⟨u, u, h, h, Int.le_refl u⟩

theorem AtMost.trans (h : a.AtMost b) (h' : b.AtMost c) : a.AtMost c := by
  obtain ⟨u, v, hu, hv, hle⟩ := h
  obtain ⟨v', w, hv', hw, hle'⟩ := h'
  cases hv.symm.trans hv'
  exact ⟨u, w, hu, hw, Int.le_trans hle hle'⟩

theorem Leads.refl (order : Order) (h : a.place? = some (.at u)) : a.Leads order a := by
  cases order with
  | less => exact AtMost.refl h
  | greater => exact AtMost.refl h

theorem Leads.trans (h : a.Leads order b) (h' : b.Leads order c) : a.Leads order c := by
  cases order with
  | less => exact AtMost.trans h h'
  | greater => exact AtMost.trans h' h

theorem inOrder_of_number? {x y : Number} (order : Order) (ha : a.number? = some x) (hb : b.number? = some y) :
    inOrder order a b = .ok (order.relates Number.lt x y) := by
  cases a with
  | number z =>
    cases ha
    cases b with
    | number w => cases hb; rfl
    | bool d => cases hb; rfl
    | _ => cases hb
  | bool e =>
    cases ha
    cases b with
    | number w => cases hb; rfl
    | bool d => cases hb; rfl
    | _ => cases hb
  | _ => cases ha

/-- Finite numbers always compare, and the answer says which of the two leads. -/
theorem inOrder_cases (order : Order) (ha : a.place? = some (.at u)) (hb : b.place? = some (.at v)) :
    (inOrder order a b = .ok true ∧ a.Leads order b) ∨ (inOrder order a b = .ok false ∧ b.Leads order a) := by
  obtain ⟨x, hx, hu⟩ := Option.bind_eq_some_iff.mp ha
  obtain ⟨y, hy, hv⟩ := Option.bind_eq_some_iff.mp hb
  rw [inOrder_of_number? order hx hy]
  cases order with
  | less =>
    rw [Order.relates, Number.lt_of_place hu hv]
    by_cases hlt : u < v
    · exact .inl ⟨by rw [decide_eq_true hlt], u, v, ha, hb, Int.le_of_lt hlt⟩
    · exact .inr ⟨by rw [decide_eq_false hlt], v, u, hb, ha, Int.not_lt.mp hlt⟩
  | greater =>
    rw [Order.relates, Number.lt_of_place hv hu]
    by_cases hlt : v < u
    · exact .inl ⟨by rw [decide_eq_true hlt], v, u, hb, ha, Int.le_of_lt hlt⟩
    · exact .inr ⟨by rw [decide_eq_false hlt], u, v, ha, hb, Int.not_lt.mp hlt⟩

/-- The extreme of finite numbers is one of them and leads them all. -/
theorem exists_extreme (order : Order) {best : Datum} {rest : List Datum}
    (h : ∀ d ∈ best :: rest, ∃ u, d.place? = some (.at u)) :
    ∃ d ∈ best :: rest, extreme order best rest = .ok d ∧ ∀ e ∈ best :: rest, d.Leads order e := by
  induction rest generalizing best with
  | nil =>
    obtain ⟨u, hu⟩ := h best List.mem_cons_self
    exact ⟨best, List.mem_cons_self, rfl, List.forall_mem_singleton.mpr (.refl order hu)⟩
  | cons next rest ih =>
    simp only [List.forall_mem_cons] at h
    obtain ⟨⟨u, hbest⟩, ⟨v, hnext⟩, hrest⟩ := h
    unfold extreme
    -- The one of the two that leads stays, and so leads the other as well.
    rcases inOrder_cases order hnext hbest with ⟨hyes, hleads⟩ | ⟨hno, hleads⟩
    · rw [hyes]
      obtain ⟨d, hmem, hd, hall⟩ := ih (List.forall_mem_cons.mpr ⟨⟨v, hnext⟩, hrest⟩)
      rw [List.forall_mem_cons] at hall
      refine ⟨d, List.mem_cons_of_mem best hmem, hd, ?_⟩
      exact List.forall_mem_cons.mpr ⟨hall.1.trans hleads, List.forall_mem_cons.mpr hall⟩
    · rw [hno]
      obtain ⟨d, hmem, hd, hall⟩ := ih (List.forall_mem_cons.mpr ⟨⟨u, hbest⟩, hrest⟩)
      rw [List.forall_mem_cons] at hall
      refine ⟨d, ?_, hd, ?_⟩
      · exact (List.mem_cons.mp hmem).elim (fun heq => heq ▸ List.mem_cons_self)
          fun hd => List.mem_cons_of_mem best (List.mem_cons_of_mem next hd)
      · exact List.forall_mem_cons.mpr ⟨hall.1, List.forall_mem_cons.mpr ⟨hall.1.trans hleads, hall.2⟩⟩

end Datum

namespace Bounds

/-- A mark lies inside bounds, or on a side of them. -/
structure Contains (b : Bounds) (m : Mark) : Prop where
  left : b.minX.AtMost m.x
  right : m.x.AtMost b.maxX
  bottom : b.minY.AtMost m.y
  top : m.y.AtMost b.maxY

/-- Bounds that contain all of some marks, with each side at one of them. -/
structure IsTight (b : Bounds) (marks : List Mark) : Prop where
  contains : ∀ m ∈ marks, b.Contains m
  left : ∃ m ∈ marks, m.x = b.minX
  right : ∃ m ∈ marks, m.x = b.maxX
  bottom : ∃ m ∈ marks, m.y = b.minY
  top : ∃ m ∈ marks, m.y = b.maxY
  width : b.minX.AtMost b.maxX
  height : b.minY.AtMost b.maxY

structure Within (inner outer : Bounds) : Prop where
  left : outer.minX.AtMost inner.minX
  right : inner.maxX.AtMost outer.maxX
  bottom : outer.minY.AtMost inner.minY
  top : inner.maxY.AtMost outer.maxY

theorem IsTight.within {inner outer : Bounds} {marks more : List Mark} (h : inner.IsTight marks)
    (h' : outer.IsTight more) (hmore : marks ⊆ more) : inner.Within outer where
  left := by
    obtain ⟨m, hm, hx⟩ := h.left
    exact hx ▸ (h'.contains m (hmore hm)).left
  right := by
    obtain ⟨m, hm, hx⟩ := h.right
    exact hx ▸ (h'.contains m (hmore hm)).right
  bottom := by
    obtain ⟨m, hm, hy⟩ := h.bottom
    exact hy ▸ (h'.contains m (hmore hm)).bottom
  top := by
    obtain ⟨m, hm, hy⟩ := h.top
    exact hy ▸ (h'.contains m (hmore hm)).top

/-- The extreme of one coordinate of finite marks is the coordinate of one of them. -/
theorem exists_extreme_map (order : Order) {coordinate : Mark → Datum} {first : Mark} {rest : List Mark}
    (h : ∀ m ∈ first :: rest, ∃ u, (coordinate m).place? = some (.at u)) :
    ∃ d, Datum.extreme order (coordinate first) (rest.map coordinate) = .ok d ∧
      (∃ m ∈ first :: rest, coordinate m = d) ∧ ∀ m ∈ first :: rest, d.Leads order (coordinate m) := by
  have hfinite : ∀ d ∈ coordinate first :: rest.map coordinate, ∃ u, d.place? = some (.at u) := by
    rw [← List.map_cons]
    exact List.forall_mem_map.mpr h
  obtain ⟨d, hmem, hd, hall⟩ := Datum.exists_extreme order hfinite
  rw [← List.map_cons] at hmem hall
  exact ⟨d, hd, List.mem_map.mp hmem, List.forall_mem_map.mp hall⟩

theorem exists_ofMarks {first : Mark} {rest : List Mark} (h : ∀ m ∈ first :: rest, m.IsFinite) :
    ∃ b, ofMarks first rest = .ok b ∧ b.IsTight (first :: rest) := by
  have hx : ∀ m ∈ first :: rest, ∃ u, m.x.place? = some (.at u) := by
    intro m hm
    obtain ⟨u, v, hplaces⟩ := h m hm
    exact ⟨u, congrArg Prod.fst hplaces⟩
  have hy : ∀ m ∈ first :: rest, ∃ v, m.y.place? = some (.at v) := by
    intro m hm
    obtain ⟨u, v, hplaces⟩ := h m hm
    exact ⟨v, congrArg Prod.snd hplaces⟩
  obtain ⟨minX, hminX, hleft, hleast⟩ := exists_extreme_map .less hx
  obtain ⟨minY, hminY, hbottom, hlowest⟩ := exists_extreme_map .less hy
  obtain ⟨maxX, hmaxX, hright, hgreatest⟩ := exists_extreme_map .greater hx
  obtain ⟨maxY, hmaxY, htop, hhighest⟩ := exists_extreme_map .greater hy
  refine ⟨⟨minX, minY, maxX, maxY⟩, ?_, ?_⟩
  · unfold ofMarks
    rw [hminX, hminY, hmaxX, hmaxY]
    rfl
  · exact {
      contains := fun m hm => ⟨hleast m hm, hgreatest m hm, hlowest m hm, hhighest m hm⟩
      left := hleft
      right := hright
      bottom := hbottom
      top := htop
      width := (hleast first List.mem_cons_self).trans (hgreatest first List.mem_cons_self)
      height := (hlowest first List.mem_cons_self).trans (hhighest first List.mem_cons_self) }

end Bounds

namespace Recorder

variable {r : Recorder} {lines commits : Nat}

theorem bounds_of_marks_nil (h : r.marks = []) : r.bounds = .ok none := by
  unfold bounds
  rw [h]

theorem exists_bounds (hne : r.marks ≠ []) (h : ∀ m ∈ r.marks, m.IsFinite) :
    ∃ b, r.bounds = .ok (some b) ∧ b.IsTight r.marks := by
  unfold bounds
  cases hmarks : r.marks with
  | nil => exact absurd hmarks hne
  | cons first rest =>
    rw [hmarks] at h
    obtain ⟨b, hb, htight⟩ := Bounds.exists_ofMarks h
    exact ⟨b, congrArg (Except.map some) hb, htight⟩

theorem mem_of_mem_join {continuing : Bool} {first m : Mark} {rest : Polyline} {paths : List Polyline}
    (h : m ∈ (join continuing first rest paths).flatten) : m ∈ paths.flatten ∨ m ∈ first :: rest := by
  rcases join_cases continuing first rest paths with ⟨hjoin, -⟩ | ⟨earlier, path, rfl, -, hjoin⟩
  · simpa [hjoin] using h
  · simp only [hjoin, List.flatten_append, List.flatten_cons, List.flatten_nil, List.append_nil, List.mem_append] at h ⊢
    exact (or_assoc.mpr h).imp_right (List.mem_cons_of_mem first)

theorem join_ne_nil (continuing : Bool) (first : Mark) (rest : Polyline) (paths : List Polyline) :
    join continuing first rest paths ≠ [] := by
  rcases join_cases continuing first rest paths with ⟨hjoin, -⟩ | ⟨earlier, path, -, -, hjoin⟩
  · rw [hjoin]
    exact List.append_ne_nil_of_right_ne_nil _ (List.cons_ne_nil _ _)
  · rw [hjoin]
    exact List.append_ne_nil_of_right_ne_nil _ (List.cons_ne_nil _ _)

/-- A call either commits the pending marks, or leaves the paths as they are. -/
theorem paths_take (h : r.pending.length ≠ 1) (c : SurfaceCall) :
    (r.commits c = false ∧ (r.take c).paths = r.paths) ∨
      r.commits c = true ∧ ∃ first second rest, r.pending = first :: second :: rest ∧
        (r.take c).paths = join r.continuing first (second :: rest) r.paths := by
  cases c with
  | moveTo m => exact .inl ⟨rfl, rfl⟩
  | lineTo m => exact .inl ⟨rfl, rfl⟩
  | stroke =>
    by_cases hshort : ∀ first second rest, r.pending ≠ first :: second :: rest
    · have hnil := Polyline.eq_nil_of_short h hshort
      refine .inl ⟨by simp [Recorder.commits, hnil], ?_⟩
      change r.stroke.paths = r.paths
      rw [stroke_of_short hshort]
    · push Not at hshort
      obtain ⟨first, second, rest, hpending⟩ := hshort
      refine .inr ⟨by simp [Recorder.commits, hpending], first, second, rest, hpending, ?_⟩
      change r.stroke.paths = _
      unfold Recorder.stroke
      split
      · next hpending' =>
        cases hpending.symm.trans hpending'
        rfl
      · next hshort => exact absurd hpending (hshort first second rest)

theorem marks_subset_take (h : r.IsSteady) (c : SurfaceCall) : r.marks ⊆ (r.take c).marks := by
  unfold marks
  rcases paths_take h.pending c with ⟨-, hpaths⟩ | ⟨-, first, second, rest, -, hpaths⟩
  · rw [hpaths]
    exact List.Subset.refl _
  · rw [hpaths]
    exact fun m hm => mem_join (.inl hm)

theorem marks_subset_takeAll (h : r.IsSteady) (cs : List SurfaceCall) : r.marks ⊆ (r.takeAll cs).marks := by
  induction cs generalizing r with
  | nil => exact List.Subset.refl _
  | cons c cs ih => exact fun m hm => ih (h.take c) (marks_subset_take h c hm)

theorem IsFinite.marks_take (hr : r.IsFinite) (h : r.IsSteady) (hmarks : ∀ m ∈ r.marks, m.IsFinite) (c : SurfaceCall) :
    ∀ m ∈ (r.take c).marks, m.IsFinite := by
  intro m hm
  unfold marks at hm
  rcases paths_take h.pending c with ⟨-, hpaths⟩ | ⟨-, first, second, rest, hpending, hpaths⟩
  · rw [hpaths] at hm
    exact hmarks m hm
  · rw [hpaths] at hm
    exact (mem_of_mem_join hm).elim (hmarks m) fun hm => hr.pending m (hpending ▸ hm)

theorem IsFinite.marks_takeAll (hr : r.IsFinite) (h : r.IsSteady) (hmarks : ∀ m ∈ r.marks, m.IsFinite)
    {cs : List SurfaceCall} (hcs : ∀ c ∈ cs, c.IsFinite) : ∀ m ∈ (r.takeAll cs).marks, m.IsFinite := by
  induction cs generalizing r with
  | nil => exact hmarks
  | cons c cs ih =>
    rw [List.forall_mem_cons] at hcs
    exact ih (hr.take hcs.1) (h.take c) (hr.marks_take h hmarks c) hcs.2

/-- Paths are never taken away, and every stroke that is committed leaves one. -/
theorem paths_eq_nil_of_takeAll (h : r.IsSteady) {cs : List SurfaceCall} (hnil : (r.takeAll cs).paths = []) :
    r.paths = [] ∧ r.commitCount cs = 0 := by
  induction cs generalizing r with
  | nil => exact ⟨hnil, rfl⟩
  | cons c cs ih =>
    obtain ⟨htake, hcount⟩ := ih (h.take c) hnil
    rcases paths_take h.pending c with ⟨hno, hpaths⟩ | ⟨-, first, second, rest, -, hpaths⟩
    · refine ⟨hpaths.symm.trans htake, ?_⟩
      rw [commitCount, hno, hcount]
      rfl
    · rw [hpaths] at htake
      exact absurd htake (join_ne_nil _ _ _ _)

theorem paths_takeAll_of_commitCount (h : r.IsSteady) {cs : List SurfaceCall} (hnone : r.commitCount cs = 0) :
    (r.takeAll cs).paths = r.paths := by
  induction cs generalizing r with
  | nil => rfl
  | cons c cs ih =>
    obtain ⟨hno, hrest⟩ := Nat.add_eq_zero_iff.mp hnone
    rcases paths_take h.pending c with ⟨-, hpaths⟩ | ⟨hyes, -⟩
    · exact (ih (h.take c) hrest).trans hpaths
    · rw [hyes] at hno
      cases hno

theorem IsSteady.takeAll (h : r.IsSteady) (cs : List SurfaceCall) : (r.takeAll cs).IsSteady := by
  induction cs generalizing r with
  | nil => exact h
  | cons c cs ih => exact ih (h.take c)

theorem IsTidy.marks_eq_nil_iff (h : r.IsTidy lines commits) : r.marks = [] ↔ r.paths = [] := by
  unfold marks
  rw [List.flatten_eq_nil_iff]
  refine ⟨fun hall => List.eq_nil_iff_forall_not_mem.mpr ?_, fun hnil path hpath => ?_⟩
  · intro path hpath
    have hlength := h.paths path hpath
    rw [hall path hpath] at hlength
    cases hlength
  · rw [hnil] at hpath
    cases hpath

variable {cs : List SurfaceCall}

theorem marks_eq_nil_iff_commitCount : (empty.takeAll cs).marks = [] ↔ empty.commitCount cs = 0 := by
  rw [(isTidy_empty.takeAll cs).marks_eq_nil_iff]
  exact ⟨fun hnil => (paths_eq_nil_of_takeAll isSteady_empty hnil).2,
    fun hnone => paths_takeAll_of_commitCount isSteady_empty hnone⟩

theorem bounds_eq_none_iff (hfinite : ∀ m ∈ r.marks, m.IsFinite) : r.bounds = .ok none ↔ r.marks = [] := by
  refine ⟨fun hnone => ?_, bounds_of_marks_nil⟩
  by_contra hne
  obtain ⟨b, hb, -⟩ := exists_bounds hne hfinite
  cases hb.symm.trans hnone

theorem isTight_of_bounds {b : Bounds} (hfinite : ∀ m ∈ r.marks, m.IsFinite) (hb : r.bounds = .ok (some b)) :
    b.IsTight r.marks := by
  have hne : r.marks ≠ [] := by
    intro hnil
    cases (bounds_of_marks_nil hnil).symm.trans hb
  obtain ⟨b', hb', htight⟩ := exists_bounds hne hfinite
  cases hb'.symm.trans hb
  exact htight

/-- After any calls at finite marks a fresh recorder has bounds exactly if a stroke was committed. They contain every
mark of its paths and each of their sides is reached by one. Later calls that commit nothing do not change them, and no
later calls make them smaller. -/
theorem bounds_after_calls (cs : List SurfaceCall) (h : ∀ c ∈ cs, c.IsFinite) :
    ∃ r, (Surface.recorder .empty).calls cs = (.recorder r, none) ∧
      (r.bounds = .ok none ↔ empty.commitCount cs = 0) ∧
      (empty.commitCount cs ≠ 0 → ∃ b, r.bounds = .ok (some b) ∧ b.IsTight r.marks) ∧
      ∀ more : List SurfaceCall, (∀ c ∈ more, c.IsFinite) →
        ∃ later, (Surface.recorder .empty).calls (cs ++ more) = (.recorder later, none) ∧
          (r.commitCount more = 0 → later.bounds = r.bounds) ∧
          ∀ b, r.bounds = .ok (some b) → ∃ wider, later.bounds = .ok (some wider) ∧ b.Within wider := by
  have hsteady : (empty.takeAll cs).IsSteady := isSteady_empty.takeAll cs
  have hmarks : ∀ m ∈ (empty.takeAll cs).marks, m.IsFinite :=
    isFinite_empty.marks_takeAll isSteady_empty nofun h
  refine ⟨empty.takeAll cs, calls_recorder empty cs, ?_, ?_, ?_⟩
  · rw [bounds_eq_none_iff hmarks, marks_eq_nil_iff_commitCount]
  · intro hsome
    exact exists_bounds (mt marks_eq_nil_iff_commitCount.mp hsome) hmarks
  · intro more hmore
    refine ⟨(empty.takeAll cs).takeAll more, takeAll_append empty cs more ▸ calls_recorder empty (cs ++ more), ?_, ?_⟩
    · intro hnone
      unfold bounds marks
      rw [paths_takeAll_of_commitCount hsteady hnone]
    · intro b hb
      have hgrow := marks_subset_takeAll hsteady more
      have hlater := (isFinite_empty.takeAll h).marks_takeAll hsteady hmarks hmore
      have htight := isTight_of_bounds hmarks hb
      have hne : ((empty.takeAll cs).takeAll more).marks ≠ [] := by
        obtain ⟨m, hm, -⟩ := htight.left
        exact List.ne_nil_of_mem (hgrow hm)
      obtain ⟨wider, hwider, htight'⟩ := exists_bounds hne hlater
      exact ⟨wider, hwider, htight.within htight' hgrow⟩

/-- A stroke of one line, and behind it a line that is not committed. -/
def oneStroke : List SurfaceCall :=
  [.lineTo (.ofPoint ⟨.int 2, .int (-1)⟩), .stroke, .lineTo (.ofPoint ⟨.int 9, .int 9⟩)]

theorem bounds_oneStroke :
    (∀ c ∈ oneStroke, c.IsFinite) ∧ empty.commitCount oneStroke ≠ 0 ∧
      ∃ r b, (Surface.recorder .empty).calls oneStroke = (.recorder r, none) ∧ r.bounds = .ok (some b) ∧
        b.IsTight r.marks := by
  have hfinite : ∀ c ∈ oneStroke, c.IsFinite := by
    simp only [oneStroke, List.forall_mem_cons, List.not_mem_nil, false_implies, implies_true, and_true]
    exact ⟨SurfaceCall.isFinite_int 2 (-1), trivial, SurfaceCall.isFinite_int 9 9⟩
  have hcount : empty.commitCount oneStroke ≠ 0 := by decide
  obtain ⟨r, hr, -, hsome, -⟩ := bounds_after_calls oneStroke hfinite
  obtain ⟨b, hb, htight⟩ := hsome hcount
  exact ⟨hfinite, hcount, r, b, hr, hb, htight⟩

end Recorder

end TurtleGraphics
