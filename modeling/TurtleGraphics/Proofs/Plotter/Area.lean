import Mathlib.Tactic
import TurtleGraphics.Proofs.Decimal.Value
import TurtleGraphics.Proofs.Plotter.Drawing
import TurtleGraphics.Proofs.Script.Replay

/-! The area of the machine. Whatever is drawn on the canvas is written with coordinates between zero and what is
written for its sides. -/

namespace TurtleGraphics

namespace Number

variable {x y : Number}

/-- A number between zero and a finite one, by the units of both. -/
theorem exists_places (hzero : zero.le x = true) (hle : x.le y = true) (hy : y.IsFinite) :
    ∃ m n : Nat, x.place? = some (.at m) ∧ y.place? = some (.at n) ∧ m ≤ n := by
  obtain ⟨v, hv⟩ := hy.place
  obtain ⟨p, q, hp, hq, hpq⟩ := le_iff.mp hle
  obtain ⟨o, p', ho, hp', hop⟩ := le_iff.mp hzero
  cases hv.symm.trans hq
  cases hp.symm.trans hp'
  cases ho
  cases p with
  | below => cases hop
  | above => cases hpq
  | «at» u =>
    have hu : 0 * (unitsPerOne : Int) ≤ u := of_decide_eq_true hop
    have huv : u ≤ v := of_decide_eq_true hpq
    rw [Int.zero_mul] at hu
    obtain ⟨m, rfl⟩ := Int.eq_ofNat_of_zero_le hu
    obtain ⟨n, rfl⟩ := Int.eq_ofNat_of_zero_le (Int.le_trans hu huv)
    exact ⟨m, n, hp, hv, Int.ofNat_le.mp huv⟩

theorem le_int_iff {a b : Int} : (int a).le (.int b) = true ↔ a ≤ b := by
  have hpos : (0 : Int) < unitsPerOne := by exact_mod_cast unitsPerOne_pos
  change decide (a * (unitsPerOne : Int) ≤ b * unitsPerOne) = true ↔ a ≤ b
  rw [decide_eq_true_iff]
  exact Int.mul_le_mul_iff_of_pos_right hpos

theorem hasSize_nearest {n : Nat} (h : x.place? = some (.at n)) : x.nearest.HasSize (Rounding.rounded n 1) := by
  cases x with
  | int i =>
    have hunits : i * unitsPerOne = (n : Int) := Place.at.inj (Option.some.inj h)
    have hsign : decide (i * (unitsPerOne : Int) < 0) = false := by
      rw [hunits]
      exact decide_eq_false (by omega)
    rw [nearest_int, Binary64.ofInt, Binary64.ofUnits, hsign, hunits, Int.natAbs_natCast]
    exact Binary64.hasSize_ofRatio Nat.one_pos nofun
  | float x =>
    cases x with
    | notANumber => cases h
    | infinite s => cases s <;> cases h
    | finite s m =>
      have hunits : m.signed s = (n : Int) := Place.at.inj (Option.some.inj h)
      have hm := m.natAbs_signed s
      rw [hunits, Int.natAbs_natCast] at hm
      rw [hm, m.representable.rounded_eq]
      refine .finite ?_
      rintro rfl
      rw [Magnitude.signed, if_pos rfl] at hunits
      omega

/-- Making numbers binary64 keeps their order. -/
theorem exists_sizes (hzero : zero.le x = true) (hle : x.le y = true) (hy : y.IsFinite) :
    ∃ m n : Nat, x.nearest.HasSize m ∧ y.nearest.HasSize n ∧ m ≤ n := by
  obtain ⟨u, v, hu, hv, huv⟩ := exists_places hzero hle hy
  have hx := hasSize_nearest hu
  have hlimit := hasSize_nearest hv
  have hrounded := Rounding.rounded_mono huv 1
  have hfinite := isFinite_iff.mp hy
  cases hm : Rounding.rounded v 1 with
  | top =>
    rw [hm] at hlimit
    generalize y.nearest = z at hlimit hfinite
    cases hlimit
    cases hfinite
  | coe n =>
    rw [hm] at hlimit hrounded
    obtain ⟨m, hm, hmn⟩ := WithTop.le_coe_iff.mp hrounded
    rw [hm] at hx
    exact ⟨m, n, hx, hlimit, hmn⟩

end Number

namespace Plotter

/-- A point on the canvas or on its edges. -/
structure IsInside (canvas : CanvasSettings) (p : Point) : Prop where
  left : Number.zero.le p.x = true
  right : p.x.le (.int canvas.width) = true
  top : Number.zero.le p.y = true
  bottom : p.y.le (.int canvas.height) = true

/-- A coordinate that is worth something between zero and what its limit is worth, as both are written. -/
def IsWithin (text limit : List Char) : Prop :=
  ∃ value bound, Numeral.value? text = some value ∧ Numeral.value? limit = some bound ∧ value ∈ Set.uIcc 0 bound

theorem isWithin_of_sizes {x y : Binary64} {m n : WithTop Nat} (hx : x.HasSize m) (hy : y.HasSize n) (h : m ≤ n) :
    IsWithin x.hundredthsText y.hundredthsText := by
  refine ⟨_, _, Numeral.value?_hundredthsText hx, Numeral.value?_hundredthsText hy, ?_⟩
  exact Set.mem_uIcc_of_le (Numeral.places_nonneg m) (Numeral.places_mono h)

section toMachine

variable {scale : Binary64} {k : Nat}

theorem scaled_of_hasSize {x : Number} {m : Nat} (hx : x.nearest.HasSize m) (hscale : scale.HasSize k) :
    scaled x scale = .ok (x.nearest.mul scale) ∧
      (x.nearest.mul scale).HasSize (Rounding.rounded (m * k) unitsPerOne) := by
  refine ⟨?_, hx.mul hscale⟩
  unfold scaled
  rw [Motion.binary64_of_isFinite (Number.isFinite_iff.mpr hx.isFinite)]
  rfl

/-- Of two numbers that are not negative the larger one stays so on the machine. -/
theorem exists_within {x y : Number} {m n : Nat} (hx : x.nearest.HasSize m) (hy : y.nearest.HasSize n) (h : m ≤ n)
    (hscale : scale.HasSize k) {limit : Binary64} (hlimit : scaled y scale = .ok limit) :
    ∃ place, scaled x scale = .ok place ∧ IsWithin place.hundredthsText limit.hundredthsText := by
  obtain ⟨hplace, hsize⟩ := scaled_of_hasSize hx hscale
  obtain ⟨hbound, hsize'⟩ := scaled_of_hasSize hy hscale
  obtain rfl := Except.ok.inj (hbound.symm.trans hlimit)
  refine ⟨_, hplace, isWithin_of_sizes hsize hsize' ?_⟩
  exact Rounding.rounded_mono (Nat.mul_le_mul_right k h) unitsPerOne

/-- What is left of the height above a point on the canvas is no more than the height. -/
theorem exists_elevation {height : Int} {y : Number} (hzero : Number.zero.le y = true)
    (hle : y.le (.int height) = true) (hheight : (Number.int height).IsFinite) :
    ∃ up, elevation height y = .ok up ∧
      ∃ m n : Nat, up.nearest.HasSize m ∧ (Number.int height).nearest.HasSize n ∧ m ≤ n := by
  cases y with
  | int b =>
    have hb : 0 ≤ b := Number.le_int_iff.mp hzero
    have hlimit : b ≤ height := Number.le_int_iff.mp hle
    refine ⟨.int (height - b), rfl, Number.exists_sizes ?_ ?_ hheight⟩
    · exact Number.le_int_iff.mpr (by omega)
    · exact Number.le_int_iff.mpr (by omega)
  | float b =>
    obtain ⟨m, n, hm, hn, hmn⟩ := Number.exists_sizes hzero hle hheight
    obtain ⟨rest, hrest, hle⟩ := hn.sub hm hmn
    refine ⟨.float ((Number.int height).nearest.sub b), ?_, rest, n, hrest, hn, hle⟩
    have hmixed : (Number.int height).sub? (.float b) =
        (Number.int height).toBinary64?.bind fun h => some (.float (h.sub b)) := rfl
    rw [elevation_ok_iff, hmixed, hheight.toBinary64?]
    rfl

/-- Every point of the canvas has a place between zero and the place of the far corner. -/
theorem exists_place {s : Settings} {p : Point} (h : IsInside s.canvas p)
    (hwidth : (Number.int s.canvas.width).IsFinite) (hheight : (Number.int s.canvas.height).IsFinite)
    (hscale : s.plotter.mmPerPixel.HasSize k) {right top : Binary64}
    (hright : scaled (.int s.canvas.width) s.plotter.mmPerPixel = .ok right)
    (htop : scaled (.int s.canvas.height) s.plotter.mmPerPixel = .ok top) :
    ∃ place, toMachine s (.ofPoint p) = .ok place ∧
      IsWithin place.x.hundredthsText right.hundredthsText ∧ IsWithin place.y.hundredthsText top.hundredthsText := by
  obtain ⟨m, n, hm, hn, hmn⟩ := Number.exists_sizes h.left h.right hwidth
  obtain ⟨x, hx, hwithin⟩ := exists_within hm hn hmn hscale hright
  obtain ⟨up, hup, m', n', hm', hn', hmn'⟩ := exists_elevation h.top h.bottom hheight
  obtain ⟨y, hy, hwithin'⟩ := exists_within hm' hn' hmn' hscale htop
  refine ⟨⟨x, y⟩, ?_, hwithin, hwithin'⟩
  rw [toMachine_ofPoint, hx, hup]
  change (scaled up s.plotter.mmPerPixel >>= _) = _
  rw [hy]
  rfl

end toMachine

namespace Instruction

def target? : Instruction → Option Spot
  | .travel x y _ | .draw x y _ => some (x, y)
  | _ => none

end Instruction

def Program.StaysWithin (p : Program) (right top : List Char) : Prop :=
  ∀ i ∈ p.instructions, ∀ spot ∈ i.target?, IsWithin spot.1 right ∧ IsWithin spot.2 top

variable {right top : List Char}

theorem Program.StaysWithin.append {p q : Program} (h : p.StaysWithin right top) (h' : q.StaysWithin right top) :
    Program.StaysWithin (p ++ q) right top := by
  intro i hi
  rw [instructions_append] at hi
  rcases List.mem_append.mp hi with hi | hi
  · exact h i hi
  · exact h' i hi

theorem staysWithin_header (s : Settings) (comment : String) : (header s comment).StaysWithin right top := by
  intro i hi spot hspot
  rw [instructions_header] at hi
  simp only [List.mem_cons, List.not_mem_nil, or_false] at hi
  rcases hi with rfl | rfl | rfl | rfl <;> cases hspot

theorem value?_corner : Numeral.value? ['0'] = some 0 := by
  have hdigits : ∀ c ∈ ['0'], c.isDigit = true := List.forall_mem_singleton.mpr rfl
  have hspells := Numeral.SpellsUnsigned.parts hdigits .none (.inl (List.cons_ne_nil _ _)) .none
  have hworth : (Decimal.ofDigits ['0'] [] 0).value = 0 := by
    have hnothing : (Decimal.ofDigits ['0'] [] 0).coefficient = 0 := rfl
    rw [Decimal.value, hnothing, Nat.cast_zero, zero_mul]
  have hvalue := Numeral.value?_of_spells .none hspells
  rw [Option.getD_none, hworth] at hvalue
  exact hvalue

/-- The pen is parked in the corner, wherever the limits are. -/
theorem staysWithin_footer (s : PlotterSettings) {x y : ExtendedRat} (hright : Numeral.value? right = some x)
    (htop : Numeral.value? top = some y) : (footer s).StaysWithin right top := by
  intro i hi spot hspot
  have hinstructions : (footer s).instructions =
      [.servo s.upAngle, .travel ['0'] ['0'] s.travelSpeed, .motorsOff] := rfl
  rw [hinstructions] at hi
  simp only [List.mem_cons, List.not_mem_nil, or_false] at hi
  rcases hi with rfl | rfl | rfl
  · cases hspot
  · cases hspot
    exact ⟨⟨0, x, value?_corner, hright, Set.left_mem_uIcc⟩, 0, y, value?_corner, htop, Set.left_mem_uIcc⟩
  · cases hspot

/-- The lines of a path end where its points have their places. -/
theorem staysWithin_placedLines {s : PlotterSettings} {start : MachinePoint} {stops : List MachinePoint}
    (h : ∀ place ∈ start :: stops, IsWithin place.x.hundredthsText right ∧ IsWithin place.y.hundredthsText top) :
    (placedLines s start stops).StaysWithin right top := by
  intro i hi spot hspot
  obtain ⟨line, hline, hinstruction⟩ := List.mem_filterMap.mp hi
  rw [List.forall_mem_cons] at h
  simp only [placedLines, List.mem_cons, List.mem_append, List.mem_map, List.not_mem_nil, or_false] at hline
  rcases hline with rfl | rfl | ⟨place, hplace, rfl⟩ | rfl
  · cases hinstruction
    cases hspot
    exact h.1
  · cases hinstruction
    cases hspot
  · cases hinstruction
    cases hspot
    exact h.2 place hplace
  · cases hinstruction
    cases hspot

theorem staysWithin_bodies {s : Settings} {paths : List Polyline} {bodies : List Program}
    (hbodies : paths.mapM (pathLines s) = .ok bodies)
    (h : ∀ path ∈ paths, ∀ m ∈ path, ∃ place, toMachine s m = .ok place ∧
      IsWithin place.x.hundredthsText right ∧ IsWithin place.y.hundredthsText top) :
    Program.StaysWithin bodies.flatten right top := by
  have heach : ∀ body ∈ bodies, body.StaysWithin right top := by
    refine (forall_mem_mapM_iff hbodies).mpr ?_
    intro path hpath body hbody
    rcases pathLines_ok hbody with ⟨-, rfl⟩ | ⟨start, stops, -, hplaces, rfl⟩
    · exact nofun
    · refine staysWithin_placedLines ((forall_mem_mapM_iff hplaces).mpr ?_)
      intro m hm place hplace
      obtain ⟨place', hplace', hwithin⟩ := h path hpath m hm
      cases hplace.symm.trans hplace'
      exact hwithin
  intro i hi
  obtain ⟨line, hline, hinstruction⟩ := List.mem_filterMap.mp hi
  obtain ⟨body, hbody, hline⟩ := List.mem_flatten.mp hline
  exact heach body hbody i (List.mem_filterMap.mpr ⟨line, hline, hinstruction⟩)

/-- The sides of the canvas have places of their own, whatever their signs. -/
theorem exists_limit {n : Int} {scale : Binary64} (hn : (Number.int n).IsFinite) (hscale : scale.isFinite = true) :
    ∃ limit bound, scaled (.int n) scale = .ok limit ∧ Numeral.value? limit.hundredthsText = some bound := by
  have hfinite := Number.isFinite_iff.mp hn
  obtain ⟨bound, hbound⟩ := Numeral.exists_value (Binary64.mul_ne_notANumber hfinite hscale)
  refine ⟨_, bound, ?_, hbound⟩
  unfold scaled
  rw [Motion.binary64_of_isFinite hn]
  rfl

theorem exists_size_of_scale {scale : Binary64} (hfinite : scale.isFinite = true)
    (hsign : Number.zero.le (.float scale) = true) : ∃ k : Nat, scale.HasSize k := by
  have hscale : (Number.float scale).IsFinite := Number.isFinite_iff.mpr hfinite
  obtain ⟨u, hu⟩ := hscale.place
  have hself : (Number.float scale).le (.float scale) = true :=
    Number.le_iff.mpr ⟨_, _, hu, hu, decide_eq_true (Int.le_refl u)⟩
  obtain ⟨k, -, hk, -⟩ := Number.exists_sizes hsign hself hscale
  exact ⟨k, hk⟩

theorem limit_nonneg {n : Int} {scale limit : Binary64} {k : Nat} (hpos : 0 ≤ n) (hn : (Number.int n).IsFinite)
    (hscale : scale.HasSize k) (hlimit : scaled (.int n) scale = .ok limit) :
    ∃ bound, Numeral.value? limit.hundredthsText = some bound ∧ 0 ≤ bound := by
  have hzero : Number.zero.le (.int n) = true := Number.le_int_iff.mpr hpos
  have hself : (Number.int n).le (.int n) = true := Number.le_int_iff.mpr (Int.le_refl n)
  obtain ⟨m, -, hm, -⟩ := Number.exists_sizes hzero hself hn
  obtain ⟨hplace, hsize⟩ := scaled_of_hasSize hm hscale
  obtain rfl := Except.ok.inj (hplace.symm.trans hlimit)
  exact ⟨_, Numeral.value?_hundredthsText hsize, Numeral.places_nonneg _⟩

/-- A drawing inside the canvas has a program as soon as the integers of the settings can be written. Its motions end
between zero and the far corner, by what the numbers in it are worth as they are written. A side that is not negative
has no place below zero. The program is what its text is read as, when the comment is of one line. -/
theorem drawing_stays_inside (s : Settings) (comment : String) (paths : List (List Point))
    (hfinite : s.plotter.mmPerPixel.isFinite = true) (hsign : Number.zero.le (.float s.plotter.mmPerPixel) = true)
    (hwidth : (Number.int s.canvas.width).IsFinite) (hheight : (Number.int s.canvas.height).IsFinite)
    (hinside : ∀ path ∈ paths, ∀ p ∈ path, IsInside s.canvas p) :
    ((∃ program, drawing s comment (polylines paths) = .ok program) ↔
      isFramePrintable s = true ∧ ∀ path ∈ paths, 2 ≤ path.length → isPathPrintable s.plotter = true) ∧
    ∃ right top, scaled (.int s.canvas.width) s.plotter.mmPerPixel = .ok right ∧
      scaled (.int s.canvas.height) s.plotter.mmPerPixel = .ok top ∧
      (0 ≤ s.canvas.width → ∃ bound, Numeral.value? right.hundredthsText = some bound ∧ 0 ≤ bound) ∧
      (0 ≤ s.canvas.height → ∃ bound, Numeral.value? top.hundredthsText = some bound ∧ 0 ≤ bound) ∧
      ∀ program, drawing s comment (polylines paths) = .ok program →
        (∀ i ∈ program.instructions, ∀ spot ∈ i.target?,
          IsWithin spot.1 right.hundredthsText ∧ IsWithin spot.2 top.hundredthsText) ∧
        ('\n' ∉ comment.toList → Program.read? (Program.text program).toList = some program) := by
  obtain ⟨k, hscale⟩ := exists_size_of_scale hfinite hsign
  obtain ⟨right, rightmost, hright, hrightmost⟩ := exists_limit hwidth hfinite
  obtain ⟨top, topmost, htop, htopmost⟩ := exists_limit hheight hfinite
  have hplaces : ∀ path ∈ polylines paths, ∀ m ∈ path, ∃ place, toMachine s m = .ok place ∧
      IsWithin place.x.hundredthsText right.hundredthsText ∧ IsWithin place.y.hundredthsText top.hundredthsText := by
    intro path hpath m hm
    obtain ⟨points, hpoints, rfl⟩ := List.mem_map.mp hpath
    obtain ⟨p, hp, rfl⟩ := List.mem_map.mp hm
    exact exists_place (hinside points hpoints p hp) hwidth hheight hscale hright htop
  refine ⟨?_, right, top, hright, htop, ?_, ?_, ?_⟩
  · rw [exists_drawing_iff]
    simp only [polylines, List.forall_mem_map, isDrawable, List.length_map, decide_eq_true_eq]
    refine and_congr_right' (forall₂_congr fun path hpath => imp_congr_right fun _ => and_iff_left ?_)
    intro p hp
    obtain ⟨place, hplace, -⟩ := exists_place (hinside path hpath p hp) hwidth hheight hscale hright htop
    exact ⟨place, hplace⟩
  · intro hpos
    exact limit_nonneg hpos hwidth hscale hright
  · intro hpos
    exact limit_nonneg hpos hheight hscale htop
  · intro program hprogram
    obtain ⟨-, bodies, hbodies, rfl⟩ := drawing_ok_iff.mp hprogram
    refine ⟨?_, fun hcomment => read?_framed hcomment (isReadable_bodies hbodies)⟩
    exact ((staysWithin_header s comment).append (staysWithin_bodies hbodies hplaces)).append
      (staysWithin_footer s.plotter hrightmost htopmost)

theorem corner_stays_inside :
    ∃ program, drawing .standard "corner" (polylines cornerPaths) = .ok program ∧
      ∀ i ∈ program.instructions, ∀ spot ∈ i.target?,
        IsWithin spot.1 "400.00".toList ∧ IsWithin spot.2 "300.00".toList := by
  have hpoints : ∀ path ∈ cornerPaths, ∀ p ∈ path, Number.zero.le p.x = true ∧ p.x.le (.int 800) = true ∧
      Number.zero.le p.y = true ∧ p.y.le (.int 600) = true := by
    decide +kernel
  have hinside : ∀ path ∈ cornerPaths, ∀ p ∈ path, IsInside Settings.standard.canvas p := by
    intro path hpath p hp
    obtain ⟨hleft, hright, htop, hbottom⟩ := hpoints path hpath p hp
    exact ⟨hleft, hright, htop, hbottom⟩
  have hsign : Number.zero.le (.float Settings.standard.plotter.mmPerPixel) = true := by decide +kernel
  obtain ⟨hiff, right, top, hright, htop, -, -, hstays⟩ :=
    drawing_stays_inside .standard "corner" cornerPaths (by decide +kernel) hsign
      (Number.isFinite_iff.mpr (by decide +kernel)) (Number.isFinite_iff.mpr (by decide +kernel)) hinside
  have hprintable : isFramePrintable .standard = true ∧ isPathPrintable .standard = true := by decide +kernel
  obtain ⟨program, hprogram⟩ := hiff.mpr ⟨hprintable.1, fun _ _ _ => hprintable.2⟩
  have hrightText : (scaled (.int 800) Settings.standard.plotter.mmPerPixel).toOption.map Binary64.hundredthsText =
      some "400.00".toList := by
    decide +kernel
  have htopText : (scaled (.int 600) Settings.standard.plotter.mmPerPixel).toOption.map Binary64.hundredthsText =
      some "300.00".toList := by
    decide +kernel
  rw [show scaled (.int 800) Settings.standard.plotter.mmPerPixel = .ok right from hright] at hrightText
  rw [show scaled (.int 600) Settings.standard.plotter.mmPerPixel = .ok top from htop] at htopText
  rw [← Option.some.inj hrightText, ← Option.some.inj htopText]
  exact ⟨program, hprogram, (hstays program hprogram).1⟩

end Plotter

end TurtleGraphics
