import Mathlib.Tactic
import TurtleGraphics.Proofs.Turtle.Reachable
import TurtleGraphics.Proofs.Turtle.Studio
import TurtleGraphics.Standard

/-! Failing runs. A run that fails on recorders has done what the commands before the failing one do, and nothing
else. -/

namespace TurtleGraphics

namespace Outcome

theorem andThen_ok {o : Outcome} {t : Turtle} {s : Surface} (h : o = ⟨.ok t, s⟩) (f : Transition) :
    o.andThen f = f t s := by
  rw [h]
  rfl

theorem andThen_error {o : Outcome} {fault : Fault} (h : o.result = .error fault) (f : Transition) :
    o.andThen f = o := by
  obtain ⟨result, s⟩ := o
  cases h
  rfl

end Outcome

namespace Command

theorem run_cons [Platform] (c : Command) (rest : List Command) (t : Turtle) (s : Surface) :
    run (c :: rest) t s = (c.execute t s).andThen (run rest) := rfl

theorem run_append [Platform] (first second : List Command) (t : Turtle) (s : Surface) :
    run (first ++ second) t s = (run first t s).andThen (run second) := by
  induction first generalizing t s with
  | nil => rfl
  | cons c first ih =>
    rw [List.cons_append, run_cons, run_cons]
    cases hc : c.execute t s with
    | mk result s₁ =>
      cases result with
      | ok t₁ =>
        rw [Outcome.andThen_ok rfl, Outcome.andThen_ok rfl]
        exact ih t₁ s₁
      | error fault => rfl

/-- The completed commands succeed together. They are all there are, or the one behind them ends the run. -/
theorem completed_cases [Platform] (commands : List Command) (t : Turtle) (s : Surface) :
    ∃ t' s', run (commands.take (completed commands t s)) t s = ⟨.ok t', s'⟩ ∧
      ((completed commands t s = commands.length ∧ run commands t s = ⟨.ok t', s'⟩) ∨
        ∃ c, commands[completed commands t s]? = some c ∧ run commands t s = c.execute t' s' ∧
          ∃ fault, (c.execute t' s').result = .error fault) := by
  induction commands generalizing t s with
  | nil => exact ⟨t, s, rfl, .inl ⟨rfl, rfl⟩⟩
  | cons c commands ih =>
    rw [completed, run_cons]
    cases hc : c.execute t s with
    | mk result s₁ =>
      cases result with
      | error fault => exact ⟨t, s, rfl, .inr ⟨c, rfl, hc.symm, fault, by rw [hc]⟩⟩
      | ok t₁ =>
        obtain ⟨t', s', htake, hcases⟩ := ih t₁ s₁
        refine ⟨t', s', ?_, ?_⟩
        · rw [List.take_succ_cons, run_cons, Outcome.andThen_ok hc]
          exact htake
        · rw [Outcome.andThen_ok rfl, List.length_cons, List.getElem?_cons_succ]
          exact hcases.imp_left fun h => ⟨congrArg (· + 1) h.1, h.2⟩

/-- The first `k` commands succeed, the one behind them fails on the turtle that they reach, and the surface stays
as they left it. -/
def StopsAt [Platform] (commands : List Command) (t : Turtle) (s : Surface) (fault : Fault) (k : Nat) : Prop :=
  ∃ c t' s', commands[k]? = some c ∧ run (commands.take k) t s = ⟨.ok t', s'⟩ ∧
    c.execute t' s' = ⟨.error fault, s'⟩ ∧ run commands t s = ⟨.error fault, s'⟩

variable {commands : List Command} {t : Turtle} {s : Surface} {fault : Fault}

theorem StopsAt.head [Platform] {c : Command} (hc : c.execute t s = ⟨.error fault, s⟩) :
    StopsAt (c :: commands) t s fault 0 := by
  refine ⟨c, t, s, rfl, rfl, hc, ?_⟩
  rw [run_cons, hc]
  rfl

theorem StopsAt.cons [Platform] {c : Command} {t₁ : Turtle} {s₁ : Surface} {k : Nat} (hc : c.execute t s = ⟨.ok t₁, s₁⟩)
    (h : StopsAt commands t₁ s₁ fault k) : StopsAt (c :: commands) t s fault (k + 1) := by
  obtain ⟨d, t', s', hk, htake, hfail, hrun⟩ := h
  refine ⟨d, t', s', hk, ?_, hfail, ?_⟩
  · rw [List.take_succ_cons, run_cons, Outcome.andThen_ok hc]
    exact htake
  · rw [run_cons, Outcome.andThen_ok hc]
    exact hrun

theorem exists_stopsAt [Platform] (hs : s.onlyRecorders = true) (h : (run commands t s).result = .error fault) :
    ∃ k, StopsAt commands t s fault k := by
  -- The first command stops the run, or the rest stops on what it leaves, which has only recorders still.
  induction commands generalizing t s with
  | nil => cases h
  | cons c commands ih =>
    rw [run_cons] at h
    cases hc : c.execute t s with
    | mk result s₁ =>
      cases result with
      | error f =>
        have hf : (c.execute t s).result = .error f := by rw [hc]
        have hsurface := c.atomic_execute.surface_of_error hs hf
        rw [hc] at hsurface
        dsimp only at hsurface
        subst hsurface
        rw [hc] at h
        cases h
        exact ⟨0, .head hc⟩
      | ok t₁ =>
        rw [Outcome.andThen_ok hc] at h
        have hs₁ : s₁.onlyRecorders = true := by
          obtain ⟨-, cs, rfl⟩ := c.atomic_execute.makes hc
          exact Surface.onlyRecorders_drawn hs cs
        obtain ⟨k, hk⟩ := ih hs₁ h
        exact ⟨k + 1, hk.cons hc⟩

/-- A run that passes a place where commands stop does not succeed. -/
theorem StopsAt.run_take_ne [Platform] {k n : Nat} {t' : Turtle} {s' : Surface} (h : StopsAt commands t s fault k)
    (hkn : k < n) : run (commands.take n) t s ≠ ⟨.ok t', s'⟩ := by
  obtain ⟨c, t₁, s₁, hk, htake, hfail, -⟩ := h
  obtain ⟨hlt, hget⟩ := List.getElem?_eq_some_iff.mp hk
  have hsplit : commands.take n = commands.take k ++ c :: (commands.take n).drop (k + 1) := by
    have hlen : k < (commands.take n).length := by
      rw [List.length_take]
      omega
    have hdrop := List.drop_eq_getElem_cons hlen
    rw [List.getElem_take, hget] at hdrop
    have := List.take_append_drop k (commands.take n)
    rw [List.take_take, Nat.min_eq_left (Nat.le_of_lt hkn), hdrop] at this
    exact this.symm
  rw [hsplit, run_append, Outcome.andThen_ok htake, run_cons, Outcome.andThen_error (by rw [hfail]), hfail]
  intro heq
  cases heq

theorem StopsAt.unique [Platform] {k n : Nat} (h : StopsAt commands t s fault k) (h' : StopsAt commands t s fault n) :
    n = k := by
  rcases Nat.lt_trichotomy k n with hlt | heq | hgt
  · obtain ⟨-, t', s', -, htake, -⟩ := h'
    exact absurd htake (h.run_take_ne hlt)
  · exact heq.symm
  · obtain ⟨-, t', s', -, htake, -⟩ := h
    exact absurd htake (h'.run_take_ne hgt)

/-- On recorders a run that fails stops at exactly one place, and a single deed that fails leaves no trace. -/
theorem run_stops_once [Platform] (hs : s.onlyRecorders = true) :
    (∀ (commands : List Command) (t : Turtle) (fault : Fault),
      (run commands t s).result = .error fault → ∃! k, StopsAt commands t s fault k) ∧
    ∀ (deed : Deed) (t : Turtle) (fault : Fault),
      (deed.plan.perform t s).result = .error fault → (deed.plan.perform t s).surface = s := by
  constructor
  · intro commands t fault h
    obtain ⟨k, hk⟩ := exists_stopsAt hs h
    exact ⟨k, hk, fun n hn => hk.unique hn⟩
  · intro deed t fault h
    exact deed.atomic.surface_of_error hs h

/-- The second turn leaves the range of headings, behind a line that is drawn. -/
def overturning : List Command :=
  [⟨.text "PEN DOWN", .null⟩, ⟨.text "MOVE", .int 10⟩, ⟨.text "TURN", .int 300⟩, ⟨.text "TURN", .int 300⟩,
    ⟨.text "MOVE", .int 10⟩]

open Standard

theorem overturning_stops_once :
    ∃ fault, ∃! k, StopsAt overturning ⟨⟨.int 0, .int 0⟩, .int 0, .up⟩ (.recorder .empty) fault k := by
  have hnone : (run overturning ⟨⟨.int 0, .int 0⟩, .int 0, .up⟩ (.recorder .empty)).result.toOption = none := by
    decide +kernel
  obtain ⟨fault, hfault⟩ := error_of_toOption hnone
  exact ⟨fault, (run_stops_once rfl).1 _ _ _ hfault⟩

end Command

end TurtleGraphics
