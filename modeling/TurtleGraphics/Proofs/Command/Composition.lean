import Mathlib.Tactic
import TurtleGraphics.Proofs.Command.CommittedPrefix

/-! Runs as compositions. A run is the composition of its batches, of its commands, and of their transitions when all
of these can be built. Building them first refuses at once what a run would only refuse later. -/

namespace TurtleGraphics

namespace Plan

theorem buildAll_map [Platform] {α : Type} {plan : α → Plan} {f : α → Transition} (h : ∀ a, (plan a).build = .ok (f a))
    (l : List α) : buildAll (l.map plan) = .ok (l.map f) := by
  induction l with
  | nil => rfl
  | cons a l ih =>
    rw [List.map_cons, buildAll, h a, ih]
    rfl

theorem perform_pipe_of_ok [Platform] {stages : List Plan} {fs : List Transition} (h : buildAll stages = .ok fs) :
    (pipe stages).perform = Transition.sequence fs := by
  apply perform_of_ok
  rw [build, h]
  rfl

theorem perform_pipe_of_error [Platform] {stages : List Plan} {fault : Fault} (h : buildAll stages = .error fault) :
    (pipe stages).perform = Transition.fail fault := by
  apply perform_of_error
  rw [build, h]
  rfl

theorem buildAll_ofCommand [Platform] (commands : List Command) :
    buildAll (commands.map ofCommand) = Command.transitions commands := by
  unfold Command.transitions
  induction commands with
  | nil => rfl
  | cons c commands ih => rw [List.map_cons, buildAll, List.mapM_cons, build_ofCommand, ih]

end Plan

namespace Command

/-- The fault is that of the first command whose transition cannot be built. -/
def FirstRefused [Platform] (commands : List Command) (fault : Fault) : Prop :=
  ∃ before c after, commands = before ++ c :: after ∧
    (∀ b ∈ before, ∃ f, b.transition = .ok f) ∧ c.transition = .error fault

theorem execute_of_ok [Platform] {c : Command} {f : Transition} (h : c.transition = .ok f) : c.execute = f := by
  funext t s
  simp only [execute, h]

theorem execute_of_error [Platform] {c : Command} {fault : Fault} (h : c.transition = .error fault) :
    c.execute = Transition.fail fault := by
  funext t s
  simp only [execute, h, Transition.fail]

theorem sequence_batches [Platform] (groups : List (List Command)) :
    Transition.sequence (groups.map run) = run groups.flatten := by
  induction groups with
  | nil => rfl
  | cons group groups ih =>
    funext t s
    rw [List.map_cons, List.flatten_cons, run_append, ← ih]
    rfl

theorem sequence_executions [Platform] (commands : List Command) :
    Transition.sequence (commands.map execute) = run commands := by
  induction commands with
  | nil => rfl
  | cons c commands ih =>
    funext t s
    rw [List.map_cons, run_cons, ← ih]
    rfl

theorem eq_executions_of_transitions [Platform] {commands : List Command} {fs : List Transition}
    (h : transitions commands = .ok fs) : fs = commands.map execute := by
  unfold transitions at h
  induction commands generalizing fs with
  | nil => cases h; rfl
  | cons c commands ih =>
    rw [List.mapM_cons] at h
    obtain ⟨f, hf, h⟩ := ok_of_bind_ok h
    obtain ⟨gs, hgs, h⟩ := ok_of_bind_ok h
    cases h
    rw [List.map_cons, execute_of_ok hf, ih hgs]

theorem firstRefused_of_transitions [Platform] {commands : List Command} {fault : Fault}
    (h : transitions commands = .error fault) : FirstRefused commands fault := by
  unfold transitions at h
  induction commands with
  | nil => cases h
  | cons c commands ih =>
    rw [List.mapM_cons] at h
    rcases error_of_bind_error h with hc | ⟨f, hf, h⟩
    · refine ⟨[], c, commands, rfl, ?_, hc⟩
      intro b hb
      cases hb
    · rcases error_of_bind_error h with hrest | ⟨gs, -, h⟩
      · obtain ⟨before, d, after, rfl, hbefore, hd⟩ := ih hrest
        refine ⟨c :: before, d, after, rfl, ?_, hd⟩
        intro b hb
        rcases List.mem_cons.mp hb with rfl | hb
        · exact ⟨f, hf⟩
        · exact hbefore b hb
      · cases h

/-- A run does not get past a command that is refused, whatever turtle comes to it. -/
theorem FirstRefused.run_error [Platform] {commands : List Command} {fault : Fault} (h : FirstRefused commands fault)
    (t : Turtle) (s : Surface) : ∃ f, (run commands t s).result = .error f := by
  obtain ⟨before, c, after, rfl, -, hc⟩ := h
  rw [run_append]
  cases hbefore : run before t s with
  | mk result s₁ =>
    cases result with
    | error f => exact ⟨f, rfl⟩
    | ok t₁ =>
      refine ⟨fault, ?_⟩
      rw [Outcome.andThen_ok rfl, run_cons, execute_of_error hc]
      rfl

/-- A run in one piece, in batches, and command by command end alike on every turtle and surface. Transitions that are
built first end alike too when all of them can be built. Otherwise the first that cannot be is the fault, before
anything is drawn, and the run fails as well. -/
theorem run_eq_compositions [Platform] (groups : List (List Command)) (t : Turtle) (s : Surface) :
    (Plan.pipe (groups.map .run)).perform t s = run groups.flatten t s ∧
    (Plan.pipe (groups.flatten.map .execute)).perform t s = run groups.flatten t s ∧
    match transitions groups.flatten with
    | .ok _ => (Plan.pipe (groups.flatten.map .ofCommand)).perform t s = run groups.flatten t s
    | .error fault =>
      FirstRefused groups.flatten fault ∧
        (Plan.pipe (groups.flatten.map .ofCommand)).perform t s = ⟨.error fault, s⟩ ∧
        ∃ f, (run groups.flatten t s).result = .error f := by
  refine ⟨?_, ?_, ?_⟩
  · have hbuild : Plan.buildAll (groups.map .run) = .ok (groups.map run) := Plan.buildAll_map (fun _ => rfl) groups
    rw [Plan.perform_pipe_of_ok hbuild, sequence_batches]
  · have hbuild : Plan.buildAll (groups.flatten.map .execute) = .ok (groups.flatten.map execute) :=
      Plan.buildAll_map (fun _ => rfl) groups.flatten
    rw [Plan.perform_pipe_of_ok hbuild, sequence_executions]
  · have hbuild := Plan.buildAll_ofCommand groups.flatten
    split
    · next fs hfs =>
      rw [Plan.perform_pipe_of_ok (hbuild.trans hfs), eq_executions_of_transitions hfs, sequence_executions]
    · next fault hfault =>
      have hfirst := firstRefused_of_transitions hfault
      refine ⟨hfirst, ?_, hfirst.run_error t s⟩
      rw [Plan.perform_pipe_of_error (hbuild.trans hfault)]
      rfl

end Command

end TurtleGraphics
