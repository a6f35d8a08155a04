import Mathlib.Tactic
import TurtleGraphics.Proofs.Command.Trajectory
import TurtleGraphics.Standard

/-! The place of pen commands. Between two moves only the last pen command counts, and it may stand anywhere among the
turns. -/

namespace TurtleGraphics

namespace Transition

/-- A transition that leaves the surface alone and the pen as it is, and does the same whatever the pen. -/
def CarriesPen (f : Transition) : Prop :=
  ∀ (pen : Pen) (t : Turtle) (s : Surface),
    f { t with pen := pen } s = ⟨(f t s).result.map fun u => { u with pen := pen }, s⟩

variable {f : Transition}

theorem carriesPen_identity : CarriesPen identity := by
  intro pen t s
  rfl

theorem carriesPen_fail (fault : Fault) : CarriesPen (fail fault) := by
  intro pen t s
  rfl

theorem carriesPen_turnBy (degrees : Number) : CarriesPen (turnBy degrees) := by
  intro pen t s
  rw [turnBy_eq_quiet]
  simp only [quiet, turned]
  cases t.heading.add? degrees with
  | none => rfl
  | some x =>
    dsimp only
    cases Validate.headingNumber x with
    | ok y => rfl
    | error fault => rfl

theorem CarriesPen.surface (h : f.CarriesPen) (t : Turtle) (s : Surface) : (f t s).surface = s :=
  congrArg Outcome.surface (h t.pen t s)

/-- The pen may be set before or behind it. A fault is the same in both orders. -/
theorem CarriesPen.setPen_andThen (h : f.CarriesPen) (pen : Pen) (t : Turtle) (s : Surface) :
    (setPen pen t s).andThen f = (f t s).andThen (setPen pen) := by
  have hsurface := h.surface t s
  change f { t with pen := pen } s = _
  rw [h]
  cases hf : f t s with
  | mk result s₁ =>
    rw [hf] at hsurface
    cases hsurface
    cases result with
    | ok u => rfl
    | error fault => rfl

end Transition

namespace Command

/-- Lists of commands that can be exchanged for each other in every program, whatever turtle and surface it runs on. -/
def Interchangeable [Platform] (first second : List Command) : Prop :=
  ∀ (before after : List Command) (t : Turtle) (s : Surface),
    run (before ++ first ++ after) t s = run (before ++ second ++ after) t s

variable {first second third group : List Command} {c p q : Command}

theorem interchangeable_of_run [Platform] (h : run first = run second) : Interchangeable first second := by
  intro before after t s
  have hfront : run (before ++ first) = run (before ++ second) := by
    funext t s
    rw [run_append, run_append, h]
  rw [run_append (before ++ first), run_append (before ++ second), hfront]

namespace Interchangeable

theorem refl [Platform] (commands : List Command) : Interchangeable commands commands := fun _ _ _ _ => rfl

theorem symm [Platform] (h : Interchangeable first second) : Interchangeable second first :=
  fun before after t s => (h before after t s).symm

theorem trans [Platform] (h : Interchangeable first second) (h' : Interchangeable second third) :
    Interchangeable first third :=
  fun before after t s => (h before after t s).trans (h' before after t s)

/-- What can be exchanged can be exchanged between other commands. -/
theorem within [Platform] (h : Interchangeable first second) (before after : List Command) :
    Interchangeable (before ++ first ++ after) (before ++ second ++ after) :=
  interchangeable_of_run (funext fun t => funext fun s => h before after t s)

theorem cons [Platform] (h : Interchangeable first second) (c : Command) :
    Interchangeable (c :: first) (c :: second) := by
  have hwithin := h.within [c] []
  rwa [List.append_nil, List.append_nil] at hwithin

end Interchangeable

theorem execute_eq_setPen [Platform] (h : p.isPen = true) : ∃ pen, p.execute = Transition.setPen pen := by
  simp only [isPen, Bool.or_eq_true, decide_eq_true_eq] at h
  rcases h with hup | hdown
  · exact ⟨.up, execute_of_ok (by simp only [transition, hup])⟩
  · exact ⟨.down, execute_of_ok (by simp only [transition, hdown])⟩

/-- A command that only turns the turtle, or does nothing. -/
def isSteering (c : Command) : Bool := !c.isMove && !c.isPen

theorem isSteering_iff : c.isSteering = true ↔ c.verb? = some .turn ∨ c.isKnown = false := by
  unfold isSteering isMove isPen isKnown
  cases c.verb? with
  | none => simp
  | some v => cases v <;> simp

theorem carriesPen_execute [Platform] (h : c.isSteering = true) : c.execute.CarriesPen := by
  rcases isSteering_iff.mp h with hturn | hunknown
  · have htransition : c.transition = Transition.turn c.amount := by
      simp only [transition, hturn]
    unfold Transition.turn at htransition
    split at htransition
    · rw [execute_of_ok htransition]
      exact Transition.carriesPen_turnBy _
    · rw [execute_of_error htransition]
      exact Transition.carriesPen_fail _
  · have hnone : c.verb? = none := by rwa [isKnown, Option.isSome_eq_false_iff, Option.isNone_iff_eq_none] at hunknown
    rw [execute_of_ok (f := Transition.identity) (by simp only [transition, hnone])]
    exact Transition.carriesPen_identity

theorem run_single [Platform] (c : Command) : run [c] = c.execute := by
  funext t s
  rw [run_cons]
  cases hc : c.execute t s with
  | mk result s₁ =>
    cases result with
    | ok u => rfl
    | error fault => rfl

theorem run_pair [Platform] (c d : Command) (t : Turtle) (s : Surface) :
    run [c, d] t s = (c.execute t s).andThen d.execute := by
  rw [run_cons, run_single]

/-- A pen command is undone by the next one. -/
theorem pen_absorbs [Platform] (hp : p.isPen = true) (hq : q.isPen = true) : Interchangeable [p, q] [q] := by
  obtain ⟨first, hfirst⟩ := execute_eq_setPen hp
  obtain ⟨second, hsecond⟩ := execute_eq_setPen hq
  apply interchangeable_of_run
  funext t s
  rw [run_pair, run_single, hfirst, hsecond]
  rfl

theorem pen_commutes [Platform] (hp : p.isPen = true) (hc : c.isSteering = true) : Interchangeable [p, c] [c, p] := by
  obtain ⟨pen, hpen⟩ := execute_eq_setPen hp
  apply interchangeable_of_run
  funext t s
  rw [run_pair, run_pair, hpen]
  exact (carriesPen_execute hc).setPen_andThen pen t s

theorem pen_passes [Platform] (hp : p.isPen = true) (h : ∀ c ∈ first, c.isSteering = true) :
    Interchangeable (p :: first) (first ++ [p]) := by
  induction first with
  | nil => exact .refl [p]
  | cons c first ih =>
    rw [List.forall_mem_cons] at h
    have hswap := (pen_commutes hp h.1).within [] first
    exact hswap.trans ((ih h.2).cons c)

def steering (group : List Command) : List Command := group.filter fun c => !c.isPen

theorem isSteering_of_mem (h : ∀ c ∈ group, c.isMove = false) : ∀ c ∈ steering group, c.isSteering = true := by
  intro c hc
  obtain ⟨hmem, hpen⟩ := List.mem_filter.mp hc
  rw [isSteering, h c hmem, hpen]
  rfl

theorem steering_cons_pen (hp : p.isPen = true) : steering (p :: group) = steering group :=
  List.filter_cons_of_neg (by rw [hp]; exact Bool.false_ne_true)

theorem steering_cons (hc : c.isPen = false) : steering (c :: group) = c :: steering group :=
  List.filter_cons_of_pos (by rw [hc]; rfl)

theorem steering_of_no_pen (h : group.filter isPen = []) : steering group = group := by
  rw [List.filter_eq_nil_iff] at h
  apply List.filter_eq_self.mpr
  intro c hc
  rw [Bool.not_eq_true', ← Bool.not_eq_true]
  exact h c hc

/-- A group without moves can be exchanged for its turns with its last pen command behind them. -/
theorem last_pen_counts [Platform] (h : ∀ c ∈ group, c.isMove = false) (hp : p ∈ (group.filter isPen).getLast?) :
    Interchangeable group (steering group ++ [p]) := by
  induction group with
  | nil => cases hp
  | cons c group ih =>
    have hsteering := isSteering_of_mem fun d hd => h d (List.mem_cons_of_mem c hd)
    rw [List.forall_mem_cons] at h
    cases hc : c.isPen with
    | false =>
      rw [List.filter_cons_of_neg (by rw [hc]; exact Bool.false_ne_true)] at hp
      rw [steering_cons hc]
      exact (ih h.2 hp).cons c
    | true =>
      rw [List.filter_cons_of_pos hc, List.getLast?_cons] at hp
      rw [steering_cons_pen hc]
      cases hlast : (group.filter isPen).getLast? with
      | none =>
        rw [hlast] at hp
        cases hp
        have hnone := steering_of_no_pen (List.getLast?_eq_none_iff.mp hlast)
        rw [hnone] at hsteering ⊢
        exact pen_passes hc hsteering
      | some q =>
        -- The first pen command passes the turns, and is absorbed by the last one.
        rw [hlast] at hp
        obtain rfl : q = p := by
          cases hp
          rfl
        have hq : q.isPen = true := (List.mem_filter.mp (List.mem_of_getLast? hlast)).2
        have hpass := (pen_passes hc hsteering).within [] [q]
        have habsorb := (pen_absorbs hc hq).within (steering group) []
        rw [List.append_nil, List.append_nil] at habsorb
        rw [List.nil_append, List.nil_append, List.append_assoc] at hpass
        exact ((ih h.2 hlast).cons c).trans (hpass.trans habsorb)

/-- In any program, on any turtle and any surface, the first of two pen commands can be left out, and a pen command can
change places with a turn or an unknown command, which may be refused in both places. So a group without moves can be
exchanged for its turns with its last pen command anywhere among them. -/
theorem last_pen_anywhere [Platform] :
    (∀ p q : Command, p.isPen = true → q.isPen = true → Interchangeable [p, q] [q]) ∧
    (∀ p c : Command, p.isPen = true → c.verb? = some .turn ∨ c.isKnown = false → Interchangeable [p, c] [c, p]) ∧
    ∀ group : List Command, (∀ c ∈ group, c.isMove = false) → ∀ p ∈ (group.filter isPen).getLast?,
      ∀ first second, steering group = first ++ second → Interchangeable group (first ++ p :: second) := by
  refine ⟨fun p q hp hq => pen_absorbs hp hq, fun p c hp hc => pen_commutes hp (isSteering_iff.mpr hc), ?_⟩
  intro group hmoves p hp first second hsplit
  have hpen : p.isPen = true := (List.mem_filter.mp (List.mem_of_getLast? hp)).2
  have hsecond : ∀ c ∈ second, c.isSteering = true := by
    intro c hc
    exact isSteering_of_mem hmoves c (hsplit ▸ List.mem_append_right first hc)
  have hlast := last_pen_counts hmoves hp
  have hpass := (pen_passes hpen hsecond).within first []
  rw [List.append_nil, List.append_nil, ← List.append_assoc, ← hsplit] at hpass
  exact hlast.trans hpass.symm

/-- Turns to a heading that is out of range, with pen commands and a command that does nothing between them. -/
def wobbling : List Command :=
  [⟨.text "PEN UP", .int 7⟩, ⟨.text "TURN", .int 300⟩, ⟨.text "SPIN", .text "x"⟩, ⟨.verb .penDown, .null⟩,
    ⟨.verb .turn, .float (.ofInt 300)⟩]

open Standard

theorem wobbling_pen_first :
    (∀ c ∈ wobbling, c.isMove = false) ∧ ⟨.verb .penDown, .null⟩ ∈ (wobbling.filter isPen).getLast? ∧
    Interchangeable wobbling (⟨.verb .penDown, .null⟩ :: steering wobbling) ∧
    Interchangeable [⟨.text "PEN UP", .int 7⟩, ⟨.verb .penDown, .null⟩] [⟨.verb .penDown, .null⟩] ∧
    Interchangeable [⟨.text "PEN UP", .int 7⟩, ⟨.text "SPIN", .text "x"⟩]
      [⟨.text "SPIN", .text "x"⟩, ⟨.text "PEN UP", .int 7⟩] := by
  obtain ⟨habsorb, hcommute, hanywhere⟩ := last_pen_anywhere
  have hmoves : ∀ c ∈ wobbling, c.isMove = false := by
    simp only [wobbling, List.forall_mem_cons, List.not_mem_nil, false_implies, implies_true, and_true]
    exact ⟨rfl, rfl, rfl, rfl, rfl⟩
  have hlast : ⟨.verb .penDown, .null⟩ ∈ (wobbling.filter isPen).getLast? := rfl
  exact ⟨hmoves, hlast, hanywhere wobbling hmoves _ hlast [] _ rfl, habsorb _ _ rfl rfl, hcommute _ _ rfl (.inr rfl)⟩

end Command

end TurtleGraphics
