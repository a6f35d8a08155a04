import Mathlib.Tactic
import TurtleGraphics.Proofs.Script.RoundTrip

/-! The fields of an item of a script. Of several members with one name the last counts, and a field is fine or has one
thing wrong with it. -/

namespace TurtleGraphics

namespace Json

/-- The value of the last member with the name. -/
def IsLast (name : String) (members : List (LooseText × Json)) (j : Json) : Prop :=
  ∃ before after, members = before ++ (.whole name, j) :: after ∧ ∀ m ∈ after, m.1 ≠ .whole name

def IsAbsent (name : String) (members : List (LooseText × Json)) : Prop := ∀ m ∈ members, m.1 ≠ .whole name

variable {name : String} {members : List (LooseText × Json)} {j : Json}

theorem member?_eq_none_iff : member? name members = none ↔ IsAbsent name members := by
  unfold member? IsAbsent
  rw [Option.map_eq_none_iff, List.find?_eq_none]
  simp only [List.mem_reverse, decide_eq_true_eq, ne_eq]

theorem member?_eq_some_iff : member? name members = some j ↔ IsLast name members j := by
  unfold member? IsLast
  rw [Option.map_eq_some_iff]
  constructor
  · rintro ⟨⟨key, value⟩, hfind, rfl⟩
    obtain ⟨hkey, after, before, hsplit, hafter⟩ := List.find?_eq_some_iff_append.mp hfind
    obtain rfl : key = .whole name := of_decide_eq_true hkey
    refine ⟨before.reverse, after.reverse, ?_, ?_⟩
    · rw [← List.reverse_reverse members, hsplit, List.reverse_append, List.reverse_cons, List.append_assoc,
        List.singleton_append]
    · intro m hm heq
      have hm := hafter m (List.mem_reverse.mp hm)
      rw [decide_eq_true heq] at hm
      cases hm
  · rintro ⟨before, after, rfl, hafter⟩
    refine ⟨(.whole name, j), ?_, rfl⟩
    rw [List.reverse_append, List.reverse_cons, List.append_assoc, List.singleton_append]
    refine List.find?_eq_some_iff_append.mpr ⟨decide_eq_true rfl, after.reverse, before.reverse, rfl, ?_⟩
    intro m hm
    rw [decide_eq_false (hafter m (List.mem_reverse.mp hm))]
    rfl

end Json

namespace Checked

variable {α β γ : Type}

/-- What is wrong; nothing is wrong with a value. -/
def issues : Checked α → List Issue
  | .ok _ => []
  | .error issues => issues

theorem issues_both (f : α → β → γ) (a : Checked α) (b : Checked β) : (both f a b).issues = a.issues ++ b.issues := by
  cases a <;> cases b <;> simp [both, issues]

theorem both_ne_error_nil {f : α → β → γ} {a : Checked α} {b : Checked β} (ha : a ≠ .error []) (hb : b ≠ .error []) :
    both f a b ≠ .error [] := by
  intro h
  cases a with
  | ok x =>
    cases b with
    | ok y => cases h
    | error issues =>
      have hnil : issues = [] := Except.error.inj h
      exact hb (congrArg _ hnil)
  | error issues =>
    cases b with
    | ok y =>
      have hnil : issues = [] := Except.error.inj h
      exact ha (congrArg _ hnil)
    | error more =>
      have hnil : issues ++ more = [] := Except.error.inj h
      exact ha (congrArg _ (List.append_eq_nil_iff.mp hnil).1)

theorem both_eq_ok_iff {f : α → β → γ} {a : Checked α} {b : Checked β} {c : γ} :
    both f a b = .ok c ↔ ∃ x y, a = .ok x ∧ b = .ok y ∧ f x y = c := by
  constructor
  · exact both_ok
  · rintro ⟨x, y, rfl, rfl, rfl⟩
    rfl

end Checked

namespace Script

/-- Nothing is wrong with a field that is fine, and one thing with any other. -/
inductive FieldIssues (place : Nat) (field : String) (fine : Prop) (fault : IssueCause → Prop) : List Issue → Prop where
  | none : fine → FieldIssues place field fine fault []
  | one {cause : IssueCause} : fault cause → FieldIssues place field fine fault [⟨[.index place, .name field], cause⟩]

/-- What a reader of a field makes of it: what is fine is read, and everything else has one cause. -/
structure Settles {α : Type} (place : Nat) (field : String) (read : Checked α) (fine : α → Prop)
    (fault : IssueCause → Prop) : Prop where
  ok : ∀ {a}, read = .ok a ↔ fine a
  error : ∀ {issues}, read = .error issues ↔ ∃ cause, fault cause ∧ issues = [⟨[.index place, .name field], cause⟩]

/-- It is enough that one of the two holds, and that the reader does as either says. -/
theorem settles_of_total {α : Type} {place : Nat} {field : String} {read : Checked α} {fine : α → Prop}
    {fault : IssueCause → Prop} (hok : ∀ a, fine a → read = .ok a)
    (herror : ∀ cause, fault cause → read = .error [⟨[.index place, .name field], cause⟩])
    (total : (∃ a, fine a) ∨ ∃ cause, fault cause) : Settles place field read fine fault := by
  refine ⟨⟨fun h => ?_, hok _⟩, ⟨fun h => ?_, ?_⟩⟩
  · rcases total with ⟨b, hb⟩ | ⟨cause, hcause⟩
    · rw [hok b hb] at h
      cases h
      exact hb
    · rw [herror cause hcause] at h
      cases h
  · rcases total with ⟨b, hb⟩ | ⟨cause, hcause⟩
    · rw [hok b hb] at h
      cases h
    · rw [herror cause hcause] at h
      cases h
      exact ⟨cause, hcause, rfl⟩
  · rintro ⟨cause, hcause, rfl⟩
    exact herror cause hcause

theorem Settles.issues_iff {α : Type} {place : Nat} {field : String} {read : Checked α} {fine : α → Prop}
    {fault : IssueCause → Prop} (h : Settles place field read fine fault) {issues : List Issue} :
    FieldIssues place field (∃ a, fine a) fault issues ↔ read.issues = issues := by
  constructor
  · intro hissues
    cases hissues with
    | none hfine =>
      obtain ⟨a, ha⟩ := hfine
      rw [h.ok.mpr ha]
      rfl
    | one hfault =>
      rw [h.error.mpr ⟨_, hfault, rfl⟩]
      rfl
  · rintro rfl
    cases hread : read with
    | ok a => exact .none ⟨a, h.ok.mp hread⟩
    | error issues =>
      obtain ⟨cause, hcause, rfl⟩ := h.error.mp hread
      exact .one hcause

theorem Settles.ne_error_nil {α : Type} {place : Nat} {field : String} {read : Checked α} {fine : α → Prop}
    {fault : IssueCause → Prop} (h : Settles place field read fine fault) : read ≠ .error [] := by
  intro hread
  obtain ⟨cause, -, hnil⟩ := h.error.mp hread
  cases hnil

end Script

end TurtleGraphics
