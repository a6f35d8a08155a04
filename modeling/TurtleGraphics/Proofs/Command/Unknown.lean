import Mathlib.Tactic
import TurtleGraphics.Proofs.Command.CommittedPrefix

/-! Unknown commands. A name is known when it equals the text of a verb, and then it selects the arm of that verb. All
other commands can be left out of a run at any place. -/

namespace TurtleGraphics

namespace Datum

/-- A datum equals a text exactly when it is one, of the same characters. -/
theorem same_of_text? {d e : Datum} {s : String} (he : e.text? = some s) : d.same e = decide (d.text? = some s) := by
  cases e <;> cases he <;> cases d <;> simp [same, text?]

end Datum

namespace Command

/-- Whether a name equals the text of a verb. -/
def isListed (name : Datum) : Bool := Verb.all.any fun v => name.same (.text v.text)

/-- The first verb that a name equals, as arms are tried in their order. -/
def arm? (name : Datum) : Option Verb := Verb.all.find? fun v => name.same (.verb v)

/-- What the arm of a verb makes of an amount; the default arm ignores it. -/
def armTransition [Platform] (amount : Datum) : Option Verb → Except Fault Transition
  | some .move => Transition.move amount
  | some .turn => Transition.turn amount
  | some .penUp => .ok (Transition.setPen .up)
  | some .penDown => .ok (Transition.setPen .down)
  | none => .ok Transition.identity

theorem arm?_eq (c : Command) : arm? c.name = c.verb? := by
  have hsame : ∀ v : Verb, c.name.same (.verb v) = decide (c.name.text? = some v.text) :=
    fun v => Datum.same_of_text? rfl
  unfold arm? verb?
  simp only [hsame]
  cases c.name.text? with
  | none => rfl
  | some s =>
    simp only [Option.some.injEq, Option.bind_some, Verb.ofText?, eq_comm]

theorem isListed_eq (c : Command) : isListed c.name = c.isKnown := by
  have hsame : ∀ v : Verb, c.name.same (.text v.text) = c.name.same (.verb v) :=
    fun v => (Datum.same_of_text? rfl).trans (Datum.same_of_text? rfl).symm
  unfold isListed isKnown
  rw [← arm?_eq, arm?, List.isSome_find?]
  simp only [hsame]

theorem transition_eq [Platform] (c : Command) : c.transition = armTransition c.amount (arm? c.name) := by
  rw [arm?_eq]
  unfold transition
  split <;> simp only [armTransition, *]

variable {commands : List Command} {t : Turtle} {s : Surface} {fault : Fault} {c : Command}

def erased (commands : List Command) : List Command := commands.filter isKnown

theorem erased_cons_of_known (h : c.isKnown = true) : erased (c :: commands) = c :: erased commands :=
  List.filter_cons_of_pos h

theorem erased_cons_of_unknown (h : c.isKnown = false) : erased (c :: commands) = erased commands :=
  List.filter_cons_of_neg (by rw [h]; exact Bool.false_ne_true)

theorem erased_append (first second : List Command) : erased (first ++ second) = erased first ++ erased second :=
  List.filter_append ..

/-- The value of an unknown command is never looked at. -/
theorem execute_of_unknown [Platform] (h : c.isKnown = false) (t : Turtle) (s : Surface) :
    c.execute t s = ⟨.ok t, s⟩ := by
  have hnone : c.verb? = none := by rwa [isKnown, Option.isSome_eq_false_iff, Option.isNone_iff_eq_none] at h
  have hidentity : c.transition = .ok Transition.identity := by
    simp only [transition, hnone]
  simp only [execute, hidentity, Transition.identity]

theorem run_erased [Platform] (commands : List Command) (t : Turtle) (s : Surface) :
    run (erased commands) t s = run commands t s := by
  induction commands generalizing t s with
  | nil => rfl
  | cons c commands ih =>
    cases hc : c.isKnown with
    | true =>
      have hrest : run (erased commands) = run commands := by
        funext t s
        exact ih t s
      rw [erased_cons_of_known hc, run_cons, run_cons, hrest]
    | false =>
      rw [erased_cons_of_unknown hc, run_cons, Outcome.andThen_ok (execute_of_unknown hc t s)]
      exact ih t s

/-- A place in a list, once the unknown commands are left out of it. -/
def placeErased (commands : List Command) (k : Nat) : Nat := (erased (commands.take k)).length

theorem isKnown_of_execute_error [Platform] {o : Outcome} (h : c.execute t s = o) (hfault : o.result = .error fault) :
    c.isKnown = true := by
  by_contra hunknown
  rw [execute_of_unknown (Bool.not_eq_true _ |>.mp hunknown)] at h
  rw [← h] at hfault
  cases hfault

theorem erased_of_getElem? {k : Nat} (hk : commands[k]? = some c) (hc : c.isKnown = true) :
    erased commands = erased (commands.take k) ++ c :: erased (commands.drop (k + 1)) := by
  obtain ⟨hlt, hget⟩ := List.getElem?_eq_some_iff.mp hk
  rw [← erased_cons_of_known hc, ← erased_append, ← hget, ← List.drop_eq_getElem_cons hlt, List.take_append_drop]

/-- A run stops at the same command without the unknown ones, for the same reason and on the same surface. -/
theorem StopsAt.erased [Platform] {k : Nat} (h : StopsAt commands t s fault k) :
    ∃ c, commands[k]? = some c ∧ c.isKnown = true ∧ (erased commands)[placeErased commands k]? = some c ∧
      StopsAt (erased commands) t s fault (placeErased commands k) := by
  obtain ⟨c, t', s', hk, htake, hfail, hrun⟩ := h
  have hknown := isKnown_of_execute_error hfail rfl
  have hsplit := erased_of_getElem? hk hknown
  have hplace : (Command.erased commands)[placeErased commands k]? = some c := by
    rw [hsplit, placeErased, List.getElem?_append_right (Nat.le_refl _), Nat.sub_self]
    rfl
  have hbefore : (Command.erased commands).take (placeErased commands k) = Command.erased (commands.take k) := by
    rw [hsplit]
    exact List.take_left
  refine ⟨c, hk, hknown, hplace, c, t', s', hplace, ?_, hfail, ?_⟩
  · rw [hbefore, run_erased]
    exact htake
  · rw [run_erased]
    exact hrun

end Command

end TurtleGraphics
