import Mathlib.Tactic
import TurtleGraphics.Proofs.Command.Composition
import TurtleGraphics.Proofs.Script.KeptNumbers
import TurtleGraphics.Standard

/-! Turns by whole degrees. Headings of whole degrees are added without loss, so a run of such turns goes on exactly as
long as the exact sums are headings. -/

namespace TurtleGraphics

namespace Number

/-- The number equals an integer, whatever its kind. -/
def IsWhole (x : Number) (n : Int) : Prop := x.place? = some (.at (n * unitsPerOne))

variable {x y z : Number} {n k : Int}

theorem isWhole_int (n : Int) : (Number.int n).IsWhole n := rfl

theorem IsWhole.units? {b : Binary64} (h : (Number.float b).IsWhole n) : b.units? = some (n * unitsPerOne) := by
  cases b with
  | notANumber => cases h
  | infinite s => cases s <;> cases h
  | finite s m => exact congrArg some (Place.at.inj (Option.some.inj h))

theorem isWhole_of_units? {b : Binary64} (h : b.units? = some (n * unitsPerOne)) : (Number.float b).IsWhole n := by
  cases b with
  | notANumber => cases h
  | infinite s => cases h
  | finite s m => exact congrArg (fun u => some (Place.at u)) (Option.some.inj h)

theorem IsWhole.natAbs_le_iff (h : x.IsWhole n) : Validate.inRange x = true ↔ n.natAbs ≤ 360 := by
  have hsame : x.place? = (Number.int n).place? := h
  rw [Validate.inRange_congr hsame]
  refine ⟨Validate.natAbs_le_of_inRange, fun hn => ?_⟩
  have hpos : (0 : Int) ≤ unitsPerOne := Int.natCast_nonneg unitsPerOne
  exact Validate.inRange_of_place rfl (Int.mul_le_mul_of_nonneg_right (by omega) hpos)
    (Int.mul_le_mul_of_nonneg_right (by omega) hpos)

theorem IsWhole.eq_of_int {m : Int} (h : (Number.int m).IsWhole n) : m = n := by
  have hpos : (unitsPerOne : Int) ≠ 0 := by exact_mod_cast unitsPerOne_pos.ne'
  exact Int.eq_of_mul_eq_mul_right hpos (Place.at.inj (Option.some.inj h))

/-- As a binary64 number a whole number is at least half of itself, and all of itself unless it is large. -/
theorem IsWhole.units_toBinary64 (h : x.IsWhole n) {b : Binary64} (hb : x.toBinary64? = some b) :
    ∃ v, b.units? = some v ∧ n.natAbs * unitsPerOne ≤ 2 * v.natAbs ∧
      (n.natAbs < Nat.pow 2 53 → v = n * unitsPerOne) := by
  cases x with
  | float x =>
    cases hb
    refine ⟨_, h.units?, ?_, fun _ => rfl⟩
    rw [Int.natAbs_mul, Int.natAbs_natCast]
    omega
  | int m =>
    cases h.eq_of_int
    change Binary64.ofInt? n = some b at hb
    rw [Binary64.ofInt?, Option.ite_none_right_eq_some] at hb
    obtain ⟨hfinite, hb⟩ := hb
    obtain rfl := Option.some.inj hb
    obtain ⟨v, hv⟩ := Binary64.isFinite_iff.mp hfinite
    refine ⟨v, hv, Binary64.natAbs_le_of_ofInt hv, fun hsmall => ?_⟩
    rw [Binary64.units?_ofInt hsmall] at hv
    exact (Option.some.inj hv).symm

theorem IsWhole.exists_toBinary64 (h : x.IsWhole n) (hsmall : n.natAbs < Nat.pow 2 53) :
    ∃ b, x.toBinary64? = some b := by
  cases x with
  | float x => exact ⟨x, rfl⟩
  | int m =>
    cases h.eq_of_int
    exact ⟨_, (isFinite_of_small hsmall).toBinary64?⟩

/-- How two numbers are added: as integers, or as the binary64 numbers of both. -/
theorem add?_cases (x y : Number) :
    (∃ a b, x = .int a ∧ y = .int b ∧ x.add? y = some (.int (a + b))) ∨
      x.add? y = (x.toBinary64?.bind fun a => y.toBinary64?.map fun b => .float (a.add b)) := by
  unfold add? combine?
  split
  · next a b => exact .inl ⟨a, b, rfl, rfl, rfl⟩
  · refine .inr ?_
    cases x.toBinary64? with
    | none => rfl
    | some a =>
      cases y.toBinary64? with
      | none => rfl
      | some b => rfl

/-- A turn that leads from a heading to a heading was small, so the sum of the two is exact. -/
theorem IsWhole.add (hx : x.IsWhole n) (hn : n.natAbs ≤ 360) (hy : y.IsWhole k) (hz : x.add? y = some z)
    (h : (n + k).natAbs ≤ 360 ∨ Validate.inRange z = true) : z.IsWhole (n + k) := by
  rcases add?_cases x y with ⟨a, b, rfl, rfl, hadd⟩ | hadd
  · cases hx.eq_of_int
    cases hy.eq_of_int
    cases hadd.symm.trans hz
    exact isWhole_int _
  · rw [hadd] at hz
    obtain ⟨a, ha, hz⟩ := Option.bind_eq_some_iff.mp hz
    obtain ⟨b, hb, rfl⟩ := Option.map_eq_some_iff.mp hz
    have hroom : 2520 < Nat.pow 2 53 := by decide
    obtain ⟨u, hu, -, hexact⟩ := hx.units_toBinary64 ha
    obtain ⟨v, hv, hhalf, hexact'⟩ := hy.units_toBinary64 hb
    have hstart := hexact (by omega)
    rw [hstart] at hu
    have hsmall : k.natAbs ≤ 2160 := by
      rcases h with hsum | hrange
      · omega
      · exact natAbs_le_of_inRange_add hu hn hv hhalf hrange
    rw [hexact' (by omega)] at hv
    have hrepresentable : Representable (n * unitsPerOne + k * unitsPerOne).natAbs := by
      rw [← Int.add_mul, Int.natAbs_mul, Int.natAbs_natCast]
      exact .of_small (by omega)
    refine isWhole_of_units? ?_
    rw [Binary64.units?_add hu hv hrepresentable, Int.add_mul]

theorem IsWhole.exists_add (hx : x.IsWhole n) (hn : n.natAbs ≤ 360) (hy : y.IsWhole k) (h : (n + k).natAbs ≤ 360) :
    ∃ z, x.add? y = some z := by
  have hroom : 720 < Nat.pow 2 53 := by decide
  rcases add?_cases x y with ⟨a, b, -, -, hadd⟩ | hadd
  · exact ⟨_, hadd⟩
  · obtain ⟨a, ha⟩ := hx.exists_toBinary64 (by omega)
    obtain ⟨b, hb⟩ := hy.exists_toBinary64 (by omega)
    exact ⟨.float (a.add b), by rw [hadd, ha, hb]; rfl⟩

end Number

def IsHeading (n : Int) : Prop := -360 ≤ n ∧ n ≤ 360

theorem isHeading_iff {n : Int} : IsHeading n ↔ n.natAbs ≤ 360 := by
  unfold IsHeading
  omega

namespace Transition

variable {t : Turtle} {x : Number} {n k : Int}

theorem turned_of_isHeading (ht : t.heading.IsWhole n) (hn : IsHeading n) (hx : x.IsWhole k) (h : IsHeading (n + k)) :
    ∃ y, y.IsWhole (n + k) ∧ turned x t = .ok { t with heading := y } := by
  rw [isHeading_iff] at hn h
  obtain ⟨y, hy⟩ := ht.exists_add hn hx h
  have hwhole := ht.add hn hx hy (.inl h)
  refine ⟨y, hwhole, ?_⟩
  unfold turned Validate.headingNumber
  rw [hy]
  dsimp only
  rw [if_pos (hwhole.natAbs_le_iff.mpr h)]
  rfl

theorem turned_of_not_isHeading (ht : t.heading.IsWhole n) (hn : IsHeading n) (hx : x.IsWhole k)
    (h : ¬IsHeading (n + k)) : ∃ fault, turned x t = .error fault := by
  rw [isHeading_iff] at hn h
  cases hturned : turned x t with
  | error fault => exact ⟨fault, rfl⟩
  | ok t' =>
    obtain ⟨y, hy, hrange, -⟩ := turned_ok hturned
    exact absurd ((ht.add hn hx hy (.inr hrange)).natAbs_le_iff.mp hrange) h

end Transition

namespace Command

/-- The command turns by whole degrees, given as an integer or as a binary64 number without a fraction. -/
def TurnsBy (c : Command) (n : Int) : Prop := c.verb? = some .turn ∧ ∃ x, c.amount = .number x ∧ x.IsWhole n

variable {c d e : Command} {t : Turtle} {s : Surface} {n k : Int} {commands : List Command} {degrees : List Int}

theorem TurnsBy.execute [Platform] (hc : c.TurnsBy k) :
    ∃ x : Number, x.IsWhole k ∧ c.execute = Transition.quiet (Transition.turned x) := by
  obtain ⟨hverb, x, hamount, hx⟩ := hc
  refine ⟨x, hx, ?_⟩
  rw [← Transition.turnBy_eq_quiet]
  exact execute_of_ok (by simp only [transition, hverb, hamount]; rfl)

theorem TurnsBy.execute_ok [Platform] (hc : c.TurnsBy k) (ht : t.heading.IsWhole n) (hn : IsHeading n)
    (h : IsHeading (n + k))
    (s : Surface) : ∃ y : Number, y.IsWhole (n + k) ∧ c.execute t s = ⟨.ok { t with heading := y }, s⟩ := by
  obtain ⟨x, hx, hexecute⟩ := hc.execute
  obtain ⟨y, hy, hturned⟩ := Transition.turned_of_isHeading ht hn hx h
  exact ⟨y, hy, by rw [hexecute, Transition.quiet, hturned]⟩

theorem TurnsBy.execute_error [Platform] (hc : c.TurnsBy k) (ht : t.heading.IsWhole n) (hn : IsHeading n)
    (h : ¬IsHeading (n + k)) (s : Surface) : ∃ fault, c.execute t s = ⟨.error fault, s⟩ := by
  obtain ⟨x, hx, hexecute⟩ := hc.execute
  obtain ⟨fault, hturned⟩ := Transition.turned_of_not_isHeading ht hn hx h
  exact ⟨fault, by rw [hexecute, Transition.quiet, hturned]⟩

/-- The exact degrees that some first turns lead to. -/
def headingAfter (n : Int) (degrees : List Int) (turns : Nat) : Int := n + (degrees.take turns).sum

theorem headingAfter_zero (n : Int) (degrees : List Int) : headingAfter n degrees 0 = n := Int.add_zero n

theorem headingAfter_succ (n k : Int) (degrees : List Int) (turns : Nat) :
    headingAfter n (k :: degrees) (turns + 1) = headingAfter (n + k) degrees turns := by
  simp only [headingAfter, List.take_succ_cons, List.sum_cons, Int.add_assoc]

/-- Turns go on as long as the exact sums are headings. -/
theorem run_of_headings [Platform] (h : List.Forall₂ TurnsBy commands degrees) (ht : t.heading.IsWhole n)
    (hall : ∀ i ≤ degrees.length, IsHeading (headingAfter n degrees i)) (s : Surface) :
    ∃ y : Number, y.IsWhole (n + degrees.sum) ∧ run commands t s = ⟨.ok { t with heading := y }, s⟩ := by
  induction h generalizing t n with
  | nil => exact ⟨t.heading, by rwa [List.sum_nil, Int.add_zero], rfl⟩
  | @cons c k commands degrees hc _ ih =>
    have hn : IsHeading n := headingAfter_zero n (k :: degrees) ▸ hall 0 (Nat.zero_le _)
    have hrest : ∀ i ≤ degrees.length, IsHeading (headingAfter (n + k) degrees i) := by
      intro i hi
      rw [← headingAfter_succ]
      exact hall (i + 1) (Nat.succ_le_succ hi)
    obtain ⟨y, hy, hexecute⟩ := hc.execute_ok ht hn (headingAfter_zero (n + k) degrees ▸ hrest 0 (Nat.zero_le _)) s
    obtain ⟨z, hz, hrun⟩ := ih (t := { t with heading := y }) hy hrest
    rw [Int.add_assoc, ← List.sum_cons] at hz
    exact ⟨z, hz, by rw [run_cons, Outcome.andThen_ok hexecute, hrun]⟩

/-- The first turn to sums that are no heading is where the turns stop. -/
theorem stopsAt_of_headings [Platform] (h : List.Forall₂ TurnsBy commands degrees) (ht : t.heading.IsWhole n)
    {stop : Nat}
    (hstop : stop < degrees.length) (hbefore : ∀ i ≤ stop, IsHeading (headingAfter n degrees i))
    (hleaves : ¬IsHeading (headingAfter n degrees (stop + 1))) (s : Surface) :
    ∃ fault, StopsAt commands t s fault stop := by
  induction h generalizing t n stop with
  | nil => cases hstop
  | @cons c k commands degrees hc _ ih =>
    have hn : IsHeading n := headingAfter_zero n (k :: degrees) ▸ hbefore 0 (Nat.zero_le _)
    rw [headingAfter_succ] at hleaves
    cases stop with
    | zero =>
      rw [headingAfter_zero] at hleaves
      obtain ⟨fault, hexecute⟩ := hc.execute_error ht hn hleaves s
      exact ⟨fault, .head hexecute⟩
    | succ stop =>
      have hrest : ∀ i ≤ stop, IsHeading (headingAfter (n + k) degrees i) := by
        intro i hi
        rw [← headingAfter_succ]
        exact hbefore (i + 1) (Nat.succ_le_succ hi)
      obtain ⟨y, hy, hexecute⟩ := hc.execute_ok ht hn (headingAfter_zero (n + k) degrees ▸ hrest 0 (Nat.zero_le _)) s
      obtain ⟨fault, hstops⟩ := ih (t := { t with heading := y }) hy (Nat.lt_of_succ_lt_succ hstop) hrest hleaves
      exact ⟨fault, hstops.cons hexecute⟩

/-- Sums that are not all headings leave the range at a first turn. -/
theorem exists_stop (hn : IsHeading n) (h : ¬∀ i ≤ degrees.length, IsHeading (headingAfter n degrees i)) :
    ∃ stop < degrees.length, (∀ i ≤ stop, IsHeading (headingAfter n degrees i)) ∧
      ¬IsHeading (headingAfter n degrees (stop + 1)) := by
  classical
  push Not at h
  obtain ⟨hle, hleaves⟩ := Nat.find_spec h
  have hmin : ∀ i < Nat.find h, i ≤ degrees.length → IsHeading (headingAfter n degrees i) := by
    intro i hi hlength
    by_contra hnot
    exact Nat.find_min h hi ⟨hlength, hnot⟩
  generalize Nat.find h = first at hle hleaves hmin
  cases first with
  | zero =>
    rw [headingAfter_zero] at hleaves
    exact absurd hn hleaves
  | succ stop => exact ⟨stop, hle, fun i hi => hmin i (Nat.lt_succ_of_le hi) (by omega), hleaves⟩

theorem run_pair_ok [Platform] {a b : Int} (hc : c.TurnsBy a) (hd : d.TurnsBy b) (ht : t.heading.IsWhole n)
    (hn : IsHeading n)
    (ha : IsHeading (n + a)) (hb : IsHeading (n + a + b)) (s : Surface) :
    ∃ y : Number, y.IsWhole (n + a + b) ∧ run [c, d] t s = ⟨.ok { t with heading := y }, s⟩ := by
  obtain ⟨x, hx, hfirst⟩ := hc.execute_ok ht hn ha s
  obtain ⟨y, hy, hsecond⟩ := hd.execute_ok (t := { t with heading := x }) hx ha hb s
  exact ⟨y, hy, by rw [run_cons, Outcome.andThen_ok hfirst, run_cons, Outcome.andThen_ok hsecond]; rfl⟩

/-- Both of two runs from one turtle leave it with some whole degrees, or both fail, and the surface stays as it is. -/
inductive EndTogether (t : Turtle) (s : Surface) (n : Int) : Outcome → Outcome → Prop where
  | ok {x y : Number} : x.IsWhole n → y.IsWhole n →
      EndTogether t s n ⟨.ok { t with heading := x }, s⟩ ⟨.ok { t with heading := y }, s⟩
  | error (f g : Fault) : EndTogether t s n ⟨.error f, s⟩ ⟨.error g, s⟩

theorem endTogether_sum [Platform] {a b : Int} (hc : c.TurnsBy a) (hd : d.TurnsBy b) (he : e.TurnsBy (a + b))
    (ht : t.heading.IsWhole n) (hn : IsHeading n) (ha : IsHeading (n + a)) (s : Surface) :
    EndTogether t s (n + (a + b)) (run [c, d] t s) (run [e] t s) := by
  by_cases hsum : IsHeading (n + (a + b))
  · obtain ⟨z, hz, hone⟩ := he.execute_ok ht hn hsum s
    rw [← Int.add_assoc] at hsum hz ⊢
    obtain ⟨y, hy, htwo⟩ := run_pair_ok hc hd ht hn ha hsum s
    rw [htwo, run_cons, Outcome.andThen_ok hone]
    exact .ok hy hz
  · obtain ⟨g, hone⟩ := he.execute_error ht hn hsum s
    obtain ⟨x, hx, hfirst⟩ := hc.execute_ok ht hn ha s
    rw [← Int.add_assoc] at hsum
    obtain ⟨f, hsecond⟩ := hd.execute_error (t := { t with heading := x }) hx ha hsum s
    rw [run_cons, Outcome.andThen_ok hfirst, run_cons, run_cons, hsecond, hone]
    exact .error f g

def turning (n : Int) : Command := ⟨.text Verb.turn.text, .int n⟩

theorem turnsBy_turning (n : Int) : (turning n).TurnsBy n := ⟨rfl, .int n, rfl, Number.isWhole_int n⟩

/-- Every heading has two turns that succeed in one order and fail in the other. -/
theorem exists_order [Platform] (ht : t.heading.IsWhole n) (hn : IsHeading n) (s : Surface) :
    ∃ a b, (∃ t', (run [turning a, turning b] t s).result = .ok t') ∧
      ∃ fault, (run [turning b, turning a] t s).result = .error fault := by
  have hpair : ∃ a b, IsHeading (n + a) ∧ IsHeading (n + a + b) ∧ ¬IsHeading (n + b) := by
    unfold IsHeading at hn ⊢
    by_cases hlowest : n = -360
    · exact ⟨1, -1, by omega⟩
    · exact ⟨-1, 361 - n, by omega⟩
  obtain ⟨a, b, ha, hsum, hb⟩ := hpair
  refine ⟨a, b, ?_, ?_⟩
  · obtain ⟨y, -, hrun⟩ := run_pair_ok (turnsBy_turning a) (turnsBy_turning b) ht hn ha hsum s
    exact ⟨_, by rw [hrun]⟩
  · obtain ⟨fault, hexecute⟩ := (turnsBy_turning b).execute_error ht hn hb s
    exact ⟨fault, by rw [run_cons, hexecute]; rfl⟩

/-- Turns by whole degrees, from a heading of whole degrees, succeed exactly when every exact sum on the way is a
heading. The total is then the heading, never wrapped, and nothing else is changed. Otherwise the first turn to a sum
that is no heading is where they stop. Two turns are as good as their sum when the first of them leads to a heading, but
not in any order. -/
theorem run_turns [Platform] (h : List.Forall₂ TurnsBy commands degrees) (ht : t.heading.IsWhole n) (hn : IsHeading n)
    (s : Surface) :
    ((∃ t', (run commands t s).result = .ok t') ↔ ∀ i ≤ degrees.length, IsHeading (headingAfter n degrees i)) ∧
    (∀ t' s', run commands t s = ⟨.ok t', s'⟩ →
      s' = s ∧ ∃ y : Number, y.IsWhole (n + degrees.sum) ∧ t' = { t with heading := y }) ∧
    (∀ stop < degrees.length, (∀ i ≤ stop, IsHeading (headingAfter n degrees i)) →
      ¬IsHeading (headingAfter n degrees (stop + 1)) → ∃ fault, StopsAt commands t s fault stop) ∧
    (∀ c d e a b, c.TurnsBy a → d.TurnsBy b → e.TurnsBy (a + b) → IsHeading (n + a) →
      EndTogether t s (n + (a + b)) (run [c, d] t s) (run [e] t s)) ∧
    ∃ a b, (∃ t', (run [turning a, turning b] t s).result = .ok t') ∧
      ∃ fault, (run [turning b, turning a] t s).result = .error fault := by
  have hiff : (∃ t', (run commands t s).result = .ok t') ↔
      ∀ i ≤ degrees.length, IsHeading (headingAfter n degrees i) := by
    constructor
    · rintro ⟨t', hok⟩
      by_contra hnot
      obtain ⟨stop, hlt, hbefore, hleaves⟩ := exists_stop hn hnot
      obtain ⟨fault, _, _, _, -, -, -, hrun⟩ := stopsAt_of_headings h ht hlt hbefore hleaves s
      rw [hrun] at hok
      cases hok
    · intro hall
      obtain ⟨y, -, hrun⟩ := run_of_headings h ht hall s
      exact ⟨_, by rw [hrun]⟩
  refine ⟨hiff, ?_, ?_, ?_, exists_order ht hn s⟩
  · intro t' s' hok
    obtain ⟨y, hy, hrun⟩ := run_of_headings h ht (hiff.mp ⟨t', by rw [hok]⟩) s
    cases hok.symm.trans hrun
    exact ⟨rfl, y, hy, rfl⟩
  · intro stop hlt hbefore hleaves
    exact stopsAt_of_headings h ht hlt hbefore hleaves s
  · intro c d e a b hc hd he ha
    exact endTogether_sum hc hd he ht hn ha s

/-- Numbers of both kinds, the last one not equal to any binary64 number. -/
def mixedTurns : List Command :=
  [turning 180, ⟨.verb .turn, .float (.ofInt (-450))⟩, ⟨.text "TURN", .null⟩, turning 9007199254740993]

open Standard

theorem mixedTurns_stop :
    List.Forall₂ TurnsBy mixedTurns [180, -450, 0, 9007199254740993] ∧
    ∃ fault, StopsAt mixedTurns ⟨⟨.int 3, .int 4⟩, .int 90, .down⟩ (.recorder .empty) fault 3 := by
  have hfloat : (Number.float (.ofInt (-450))).IsWhole (-450) :=
    Number.isWhole_of_units? (Binary64.units?_ofInt (by decide))
  have hturns : List.Forall₂ TurnsBy mixedTurns [180, -450, 0, 9007199254740993] :=
    .cons (turnsBy_turning _) (.cons ⟨rfl, _, rfl, hfloat⟩ (.cons ⟨rfl, _, rfl, Number.isWhole_int 0⟩
      (.cons (turnsBy_turning _) .nil)))
  obtain ⟨-, -, hstop, -⟩ := run_turns (t := ⟨⟨.int 3, .int 4⟩, .int 90, .down⟩) hturns (Number.isWhole_int 90)
    (by unfold IsHeading; omega) (.recorder .empty)
  refine ⟨hturns, hstop 3 (by decide) ?_ ?_⟩
  · intro i hi
    interval_cases i <;> (unfold IsHeading headingAfter; simp)
  · unfold IsHeading headingAfter
    simp

end Command

end TurtleGraphics
