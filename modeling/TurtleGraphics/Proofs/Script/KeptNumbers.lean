import Mathlib.Tactic
import TurtleGraphics.Proofs.Binary64.Sums
import TurtleGraphics.Proofs.Script.RoundTrip
import TurtleGraphics.Proofs.Turtle.Reachable

/-! Numbers beside the ones that a script keeps of them. The two may part when they are added to a heading, but only
where neither sum is a heading. -/

namespace TurtleGraphics

namespace Number

theorem nearest_int (n : Int) : (Number.int n).nearest = .ofInt n := rfl

/-- A number stays what it is, or becomes the binary64 number nearest to it. -/
def KeptAs (x y : Number) : Prop := y = x ∨ y = .float x.nearest

theorem KeptAs.refl (x : Number) : x.KeptAs x := .inl rfl

theorem KeptAs.nearest_eq {x y : Number} (h : x.KeptAs y) : y.nearest = x.nearest := by
  rcases h with rfl | rfl
  · rfl
  · rfl

theorem KeptAs.eq_of_float {x : Binary64} {y : Number} (h : KeptAs (.float x) y) : y = .float x := by
  rcases h with rfl | rfl
  · rfl
  · rfl

theorem isFinite_iff {x : Number} : x.IsFinite ↔ x.nearest.isFinite = true := by
  cases x with
  | float x =>
    constructor
    · rintro ⟨b, hb, hfinite⟩
      cases hb
      exact hfinite
    · intro hfinite
      exact ⟨x, rfl, hfinite⟩
  | int n =>
    simp only [IsFinite, toBinary64?, Binary64.ofInt?, nearest_int]
    by_cases h : (Binary64.ofInt n).isFinite = true
    · simp only [h, ↓reduceIte, Option.some.injEq, exists_eq_left']
    · simp only [h, Bool.false_eq_true, ↓reduceIte, reduceCtorEq, false_and, exists_false]

theorem IsFinite.toBinary64? {x : Number} (h : x.IsFinite) : x.toBinary64? = some x.nearest := by
  have hnearest := isFinite_iff.mp h
  cases x with
  | float x => rfl
  | int n =>
    rw [nearest_int] at hnearest ⊢
    simp only [Number.toBinary64?, Binary64.ofInt?, hnearest, ↓reduceIte]

theorem KeptAs.isFinite {x y : Number} (h : x.KeptAs y) (hx : x.IsFinite) : y.IsFinite := by
  rw [isFinite_iff, h.nearest_eq]
  exact isFinite_iff.mp hx

/-- An integer with a finite binary64 number is not above a power of two, whose exponent stays unevaluated. -/
theorem natAbs_le_of_isFinite {n : Int} (h : (Number.int n).IsFinite) :
    ∃ e, e = 1025 ∧ n.natAbs ≤ Nat.pow 2 e := by
  obtain ⟨b, c, hb, hc, hunit, hover⟩ := bounds_eq
  obtain ⟨v, hv⟩ := Binary64.isFinite_iff.mp (isFinite_iff.mp h)
  have hle := Binary64.natAbs_le_of_ofInt hv
  have hlt := Binary64.natAbs_lt_of_units hv
  refine ⟨c + 1 - b, by omega, ?_⟩
  have hbound : n.natAbs * unitsPerOne ≤ Nat.pow 2 (c + 1 - b) * unitsPerOne := by
    calc n.natAbs * unitsPerOne ≤ Nat.pow 2 c * 2 := by rw [← hover]; omega
      _ = Nat.pow 2 (c + 1) := (Rounding.two_pow_add c 1).symm
      _ = Nat.pow 2 (c + 1 - b + b) := by rw [Nat.sub_add_cancel (by omega)]
      _ = Nat.pow 2 (c + 1 - b) * unitsPerOne := by rw [Rounding.two_pow_add, hunit]
  exact Nat.le_of_mul_le_mul_right hbound unitsPerOne_pos

theorem digitCount_le_of_isFinite {n : Int} (h : (Number.int n).IsFinite) : digitCount n ≤ 309 := by
  obtain ⟨e, he, hle⟩ := natAbs_le_of_isFinite h
  have hroom : Nat.pow 2 1025 < Nat.pow 10 309 := by decide +kernel
  refine Nat.toDigits_length 10 n.natAbs 309 (by decide) (Nat.lt_of_le_of_lt hle ?_)
  rw [he]
  exact hroom

/-- A finite number is never too long to be written, nor is its sum with a number of three digits. -/
theorem IsFinite.isWritable_add {n k : Int} (h : (Number.int k).IsFinite) (hn : n.natAbs ≤ 360) :
    (Number.int (n + k)).isWritable = true := by
  obtain ⟨e, he, hle⟩ := natAbs_le_of_isFinite h
  have hroom : Nat.pow 2 9 ≤ Nat.pow 2 e := Rounding.two_pow_le (by omega)
  have hdouble : Nat.pow 2 (e + 1) = Nat.pow 2 e * 2 := Rounding.two_pow_add e 1
  have hnine : Nat.pow 2 9 = 512 := by decide
  refine isWritable_of_natAbs_lt (e := e + 1) (by omega) ?_
  rw [he]
  decide

theorem IsFinite.isWritable {x : Number} (h : x.IsFinite) : x.isWritable = true := by
  cases x with
  | float x => rfl
  | int n =>
    have := h.isWritable_add (n := 0) (by decide)
    rwa [Int.zero_add] at this

end Number

namespace Validate

theorem inRange_of_place {x : Number} {u : Int} (h : x.place? = some (.at u)) (hlow : -360 * unitsPerOne ≤ u)
    (hhigh : u ≤ 360 * unitsPerOne) : inRange x = true := by
  unfold inRange
  rw [Bool.and_eq_true, Number.le_iff, Number.le_iff]
  exact ⟨⟨_, _, rfl, h, decide_eq_true hlow⟩, ⟨_, _, h, rfl, decide_eq_true hhigh⟩⟩

theorem inRange_congr {x y : Number} (h : x.place? = y.place?) : inRange x = inRange y := by
  unfold inRange Number.le
  rw [h]

theorem natAbs_le_of_inRange {n : Int} (h : inRange (.int n) = true) : n.natAbs ≤ 360 := by
  have hpos : (0 : Int) < unitsPerOne := by exact_mod_cast unitsPerOne_pos
  obtain ⟨u, hu, hlow, hhigh⟩ := place_of_inRange h
  cases hu
  have hlower := Int.le_of_mul_le_mul_right hlow hpos
  have hupper := Int.le_of_mul_le_mul_right hhigh hpos
  omega

theorem units_of_inRange {x : Binary64} (h : inRange (.float x) = true) :
    ∃ u, x.units? = some u ∧ u.natAbs ≤ 360 * unitsPerOne := by
  obtain ⟨u, hu, hlow, hhigh⟩ := place_of_inRange h
  cases x with
  | notANumber => cases hu
  | infinite s => cases s <;> cases hu
  | finite s m =>
    cases hu
    exact ⟨m.signed s, rfl, by omega⟩

end Validate

namespace Number

variable {n k : Int}

theorem isFinite_of_small (h : n.natAbs < Nat.pow 2 53) : (Number.int n).IsFinite :=
  isFinite_iff.mpr (Binary64.isFinite_iff.mpr ⟨_, Binary64.units?_ofInt h⟩)

theorem isFinite_of_inRange {x : Number} (h : Validate.inRange x = true) : x.IsFinite := by
  cases x with
  | float x =>
    obtain ⟨u, hu, -⟩ := Validate.units_of_inRange h
    exact isFinite_iff.mpr (Binary64.isFinite_iff.mpr ⟨u, hu⟩)
  | int n => exact isFinite_of_small (Nat.lt_of_le_of_lt (Validate.natAbs_le_of_inRange h) (by decide))

theorem place?_nearest_of_small (h : n.natAbs < Nat.pow 2 53) :
    (Number.float (.ofInt n)).place? = (Number.int n).place? := by
  obtain ⟨m, hform, hsigned⟩ := Binary64.ofInt_of_small h
  rw [hform, place?, place?]
  exact congrArg (fun u => some (Place.at u)) hsigned

/-- A turn that rounds its way back into the range was small, when it has lost no more than half of itself before. -/
theorem natAbs_le_of_inRange_add {x y : Binary64} {v : Int} (hx : x.units? = some (n * unitsPerOne))
    (hn : n.natAbs ≤ 360) (hy : y.units? = some v) (hk : k.natAbs * unitsPerOne ≤ 2 * v.natAbs)
    (h : Validate.inRange (.float (x.add y)) = true) : k.natAbs ≤ 2160 := by
  obtain ⟨w, hw, hle⟩ := Validate.units_of_inRange h
  have hsum := Binary64.natAbs_le_of_add hx hy hw
  have hstart : (n * unitsPerOne).natAbs ≤ 360 * unitsPerOne := by
    rw [Int.natAbs_mul, Int.natAbs_natCast]
    exact Nat.mul_le_mul_right unitsPerOne hn
  have hbound : k.natAbs * unitsPerOne ≤ 2160 * unitsPerOne := by
    generalize n * (unitsPerOne : Int) = start at hsum hstart
    omega
  exact Nat.le_of_mul_le_mul_right hbound unitsPerOne_pos

/-- The exact sum of a heading and a turn, and the rounded one of what is kept of them, are headings together. If they
are, then the one is kept as the other. -/
theorem inRange_add (hn : n.natAbs ≤ 360) (hk : (Number.int k).IsFinite) :
    Validate.inRange (.float ((Binary64.ofInt n).add (.ofInt k))) = Validate.inRange (.int (n + k)) ∧
      (Validate.inRange (.int (n + k)) = true →
        KeptAs (.int (n + k)) (.float ((Binary64.ofInt n).add (.ofInt k)))) := by
  have hpow : (2160 : Nat) < Nat.pow 2 52 := by decide
  by_cases hsmall : k.natAbs < Nat.pow 2 52
  · have hadd := Binary64.add_ofInt (Nat.lt_of_le_of_lt hn (by decide)) hsmall
    have htotal : (n + k).natAbs < Nat.pow 2 53 := by
      have : Nat.pow 2 53 = Nat.pow 2 52 + Nat.pow 2 52 := by decide
      omega
    rw [hadd]
    exact ⟨Validate.inRange_congr (place?_nearest_of_small htotal), fun _ => .inr rfl⟩
  · -- A turn of more bits leaves the range in both ways.
    have hexact : ¬Validate.inRange (.int (n + k)) = true := by
      intro h
      have := Validate.natAbs_le_of_inRange h
      omega
    have hrounded : ¬Validate.inRange (.float ((Binary64.ofInt n).add (.ofInt k))) = true := by
      intro h
      obtain ⟨v, hv⟩ := Binary64.isFinite_iff.mp (isFinite_iff.mp hk)
      have hfirst := Binary64.units?_ofInt (Nat.lt_of_le_of_lt hn (by decide))
      have := natAbs_le_of_inRange_add hfirst hn hv (Binary64.natAbs_le_of_ofInt hv) h
      omega
    rw [Bool.not_eq_true] at hexact hrounded
    rw [hexact, hrounded]
    exact ⟨rfl, nofun⟩

/-- Two numbers that are headings together, and kept one as the other if they are. -/
structure SameHeading (x y : Number) : Prop where
  inRange : Validate.inRange y = Validate.inRange x
  kept : Validate.inRange x = true → x.KeptAs y
  writable : x.isWritable = true ∧ y.isWritable = true

theorem SameHeading.refl {x : Number} (h : x.isWritable = true) : x.SameHeading x := ⟨rfl, fun _ => .refl x, h, h⟩

theorem add?_float {x y : Number} (hx : x.IsFinite) (hy : y.IsFinite) (h : (∃ a, x = .float a) ∨ ∃ b, y = .float b) :
    x.add? y = some (.float (x.nearest.add y.nearest)) := by
  have hfirst := hx.toBinary64?
  have hsecond := hy.toBinary64?
  unfold add? combine?
  split
  · rcases h with ⟨a, ha⟩ | ⟨b, hb⟩
    · cases ha
    · cases hb
  · rw [hfirst, hsecond]
    rfl

variable {x x' y y' : Number}

theorem add?_keptAs (hx : x.KeptAs x') (hy : y.KeptAs y') (hrange : Validate.inRange x = true) (hfinite : y.IsFinite) :
    ∃ z z', x.add? y = some z ∧ x'.add? y' = some z' ∧ z.SameHeading z' := by
  have hheading := isFinite_of_inRange hrange
  have hrounded : ∀ h : (∃ a, x' = .float a) ∨ ∃ b, y' = .float b,
      x'.add? y' = some (.float (x.nearest.add y.nearest)) := by
    intro h
    rw [add?_float (hx.isFinite hheading) (hy.isFinite hfinite) h, hx.nearest_eq, hy.nearest_eq]
  cases x with
  | float a =>
    have hkept := hx.eq_of_float
    exact ⟨_, _, add?_float hheading hfinite (.inl ⟨a, rfl⟩), hrounded (.inl ⟨a, hkept⟩), .refl rfl⟩
  | int n =>
    cases y with
    | float b =>
      have hkept := hy.eq_of_float
      exact ⟨_, _, add?_float hheading hfinite (.inr ⟨b, rfl⟩), hrounded (.inr ⟨b, hkept⟩), .refl rfl⟩
    | int k =>
      -- Two integers are added exactly only while both are integers still.
      have hn := Validate.natAbs_le_of_inRange hrange
      have hwritable := hfinite.isWritable_add hn
      obtain ⟨hin, hkept⟩ := inRange_add hn hfinite
      have hdrift : SameHeading (.int (n + k)) (.float ((Binary64.ofInt n).add (.ofInt k))) :=
        ⟨hin, hkept, hwritable, rfl⟩
      rcases hx with rfl | rfl
      · rcases hy with rfl | rfl
        · exact ⟨_, _, rfl, rfl, .refl hwritable⟩
        · exact ⟨_, _, rfl, hrounded (.inr ⟨_, rfl⟩), hdrift⟩
      · exact ⟨_, _, rfl, hrounded (.inl ⟨_, rfl⟩), hdrift⟩

theorem KeptAs.equals (h : x.KeptAs y) (hrange : Validate.inRange x = true) : x.equals y = true := by
  have hself := (isFinite_of_inRange hrange).equals_self
  cases x with
  | float a =>
    rw [h.eq_of_float]
    exact hself
  | int n =>
    rcases h with rfl | rfl
    · exact hself
    · have hsmall := Nat.lt_of_le_of_lt (Validate.natAbs_le_of_inRange hrange) (by decide : 360 < Nat.pow 2 53)
      unfold equals at hself ⊢
      unfold nearest
      rw [place?_nearest_of_small hsmall]
      exact hself

end Number

end TurtleGraphics
