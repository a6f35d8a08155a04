import Mathlib.Tactic
import TurtleGraphics.Proofs.Turtle.Direction
import TurtleGraphics.Standard

/-! What can go wrong from the bytes of a script to its last command: the bytes are no script, a turn leaves the range
of headings, or a move leaves the plane. -/

namespace TurtleGraphics

namespace Transition

variable {t : Turtle} {degrees : Number} {fault : Fault}

/-- A turn by a finite number fails only on a sum that is no heading, and that can always be shown. -/
theorem turned_error (ht : t.Sound) (hdegrees : degrees.IsFinite) (h : turned degrees t = .error fault) :
    ∃ heading, t.heading.add? degrees = some heading ∧ Validate.inRange heading = false ∧
      heading.isWritable = true ∧ fault = .domain (.headingOutOfRange heading) := by
  obtain ⟨z, z', hz, -, hsame⟩ := Number.add?_keptAs (.refl t.heading) (.refl degrees) ht.inRange hdegrees
  unfold turned Validate.headingNumber at h
  rw [hz] at h
  dsimp only at h
  by_cases hrange : Validate.inRange z = true
  · rw [if_pos hrange] at h
    cases h
  · rw [if_neg hrange] at h
    cases h
    exact ⟨z, hz, Bool.not_eq_true _ ▸ hrange, hsame.writable.1, rfl⟩

end Transition

namespace Command

/-- A name of characters, and for a value nothing or a finite binary64 number. -/
structure IsRead (c : Command) : Prop where
  name : ∃ s, c.name = .text s
  value : c.value = .null ∨ ∃ x : Binary64, c.value = .float x ∧ x.isFinite = true

/-- How a command asks too much of a turtle: a turn leads out of the range of headings, or a move off the plane. -/
inductive Overreaches (c : Command) (t : Turtle) : Fault → Prop where
  | turn {degrees heading : Number} : c.verb? = some .turn → c.amount = .number degrees →
      t.heading.add? degrees = some heading → Validate.inRange heading = false →
      Overreaches c t (.domain (.headingOutOfRange heading))
  | move {distance : Number} : c.verb? = some .move → c.amount = .number distance →
      Overreaches c t (.domain (.leavesPlane (.number distance) (.number t.position.x) (.number t.position.y)))

variable {c : Command} {t : Turtle} {s : Surface} {fault : Fault}

theorem IsRead.exists_amount (h : c.IsRead) : ∃ x, c.amount = .number x ∧ x.IsFinite := by
  unfold amount
  rcases h.value with hnull | ⟨x, hx, hfinite⟩
  · rw [hnull]
    exact ⟨.int 0, rfl, Number.isFinite_of_small (by decide)⟩
  · rw [hx]
    exact ⟨.float x, rfl, x, rfl, hfinite⟩

/-- One command of a script, on a turtle that can be reached, fails only in the two ways, and says so. -/
theorem IsRead.overreaches [Platform] (h : c.IsRead) (ht : t.Sound) (hs : s.onlyRecorders = true)
    (hfault : (c.execute t s).result = .error fault) : c.Overreaches t fault ∧ fault.kind = .domain := by
  obtain ⟨x, hamount, hx⟩ := h.exists_amount
  rw [execute_eq_ofVerb hamount hx] at hfault
  cases hverb : c.verb? with
  | none =>
    rw [hverb] at hfault
    cases hfault
  | some v =>
    rw [hverb] at hfault
    cases v with
    | penUp => cases hfault
    | penDown => cases hfault
    | turn =>
      rw [Transition.ofVerb, Transition.turnBy_eq_quiet] at hfault
      obtain ⟨heading, hadd, hrange, hwritable, rfl⟩ := Transition.turned_error ht hx hfault
      exact ⟨.turn hverb hamount hadd hrange, Fault.kind_of_isWritable hwritable⟩
    | move =>
      rw [Transition.ofVerb] at hfault
      rcases Motion.travel_cases hx ht.inRange ht.position with ⟨stop, hstop⟩ | hleaves
      · rw [Transition.moveBy_of_travel hs hstop] at hfault
        cases hfault
      · rw [Transition.moveBy_eq, hleaves] at hfault
        cases hfault
        exact ⟨.move hverb hamount, Motion.kind_leavesPlane hx ht.position⟩

/-- On other surfaces it fails in these ways, or because the library that paints refuses a line. -/
theorem IsRead.error_cases [Platform] (h : c.IsRead) (ht : t.Sound) (hfault : (c.execute t s).result = .error fault) :
    fault.kind = .domain ∨ fault.IsForeign :=
  (c.atomic_execute.error_cases hfault .empty).imp_left fun hrecorder => (h.overreaches ht rfl hrecorder).2

/-- So does a run. -/
theorem run_error_cases [Platform] {commands : List Command} (h : ∀ c ∈ commands, c.IsRead) (ht : t.Sound)
    (hfault : (run commands t s).result = .error fault) : fault.kind = .domain ∨ fault.IsForeign := by
  induction commands generalizing t s with
  | nil => cases hfault
  | cons c commands ih =>
    rw [List.forall_mem_cons] at h
    rw [run_cons] at hfault
    cases hc : c.execute t s with
    | mk result s₁ =>
      cases result with
      | error f =>
        rw [hc] at hfault
        cases hfault
        exact h.1.error_cases ht (by rw [hc])
      | ok t₁ =>
        rw [Outcome.andThen_ok hc] at hfault
        exact ih h.2 ((c.atomic_execute.makes hc).1.sound ht) hfault

/-- A run stops at the first command that overreaches the turtle that comes to it, and at nothing else. -/
theorem overreaches_of_run [Platform] {commands : List Command} (h : ∀ c ∈ commands, c.IsRead) (ht : t.Sound)
    (hs : s.onlyRecorders = true) (hfault : (run commands t s).result = .error fault) :
    fault.kind = .domain ∧ ∃ k c t' s', commands[k]? = some c ∧ run (commands.take k) t s = ⟨.ok t', s'⟩ ∧
      run commands t s = ⟨.error fault, s'⟩ ∧ c.Overreaches t' fault := by
  obtain ⟨k, c, t', s', hk, htake, hexecute, hrun⟩ := exists_stopsAt hs hfault
  obtain ⟨hadvance, cs, hdrawn⟩ := makes_run (commands.take k) htake
  have hs' : s'.onlyRecorders = true := hdrawn ▸ Surface.onlyRecorders_drawn hs cs
  obtain ⟨hover, hkind⟩ :=
    (h c (List.mem_of_getElem? hk)).overreaches (hadvance.sound ht) hs' (by rw [hexecute])
  exact ⟨hkind, k, c, t', s', hk, htake, hrun, hover⟩

end Command

namespace Script

open Command

theorem isRead_of_load [Validation] {bytes : List UInt8} {commands : List Command} (h : load bytes = .ok commands) :
    ∀ c ∈ commands, c.IsRead := by
  obtain ⟨lines, rfl, hfinite⟩ := exists_lines_of_load h
  intro c hc
  obtain ⟨⟨name, value⟩, hline, rfl⟩ := List.mem_map.mp hc
  cases value with
  | none => exact ⟨⟨name, rfl⟩, .inl rfl⟩
  | some x => exact ⟨⟨name, rfl⟩, .inr ⟨x, rfl, hfinite _ hline x rfl⟩⟩

theorem load_cases [Validation] (bytes : List UInt8) :
    (∃ issues, load bytes = .error (.script issues)) ∨ ∃ commands, load bytes = .ok commands := by
  unfold load
  split
  · exact .inr ⟨_, rfl⟩
  · exact .inl ⟨_, rfl⟩

/-- Any bytes are refused as a script, or read as texts with finite values. From any validated turtle, on recorders,
such commands run to the end, or one of them overreaches the turtle that comes to it. -/
theorem load_run_cases [Platform] [Validation] (bytes : List UInt8) :
    (∃ issues, load bytes = .error (.script issues)) ∨
    ∃ commands, load bytes = .ok commands ∧ (∀ c ∈ commands, c.IsRead) ∧
      ∀ {position heading pen : Datum} {t : Turtle} {s : Surface},
        Validate.turtle position heading pen = .ok t → s.onlyRecorders = true →
        (∃ t', (run commands t s).result = .ok t') ∨
        ∃ fault, fault.kind = .domain ∧ ∃ k c t' s', commands[k]? = some c ∧
          run (commands.take k) t s = ⟨.ok t', s'⟩ ∧ run commands t s = ⟨.error fault, s'⟩ ∧
          c.Overreaches t' fault := by
  rcases load_cases bytes with hrefused | ⟨commands, hload⟩
  · exact .inl hrefused
  · have hread := isRead_of_load hload
    refine .inr ⟨commands, hload, hread, ?_⟩
    intro position heading pen t s ht hs
    cases hrun : (run commands t s).result with
    | ok t' => exact .inl ⟨t', rfl⟩
    | error fault => exact .inr ⟨fault, overreaches_of_run hread (Validate.sound_of_turtle ht) hs hrun⟩

/-- Two moves of which only the first ends on the plane. -/
def offPlane : List UInt8 :=
  Text.Utf8.encode
    "[\x7b\"name\": \"MOVE\", \"value\": 1e308\x7d, \x7b\"name\": \"MOVE\", \"value\": 1.5e308\x7d]".toList

open Standard

theorem load_run_offPlane :
    Validate.turtle (.tuple [.int 0, .int 0]) (.int 0) (.text "up") = .ok unmoved ∧
    ∃ commands, load offPlane = .ok commands ∧ ∃ fault, fault.kind = .domain ∧ ∃ k c t' s', commands[k]? = some c ∧
      run (commands.take k) unmoved (.recorder .empty) = ⟨.ok t', s'⟩ ∧
      run commands unmoved (.recorder .empty) = ⟨.error fault, s'⟩ ∧ c.Overreaches t' fault := by
  have hstart : Validate.turtle (.tuple [.int 0, .int 0]) (.int 0) (.text "up") = .ok unmoved := by
    apply ok_of_toOption
    decide +kernel
  have hstops : (load offPlane).toOption.map (fun commands =>
      (run commands unmoved (.recorder .empty)).result.toOption.isNone) = some true := by
    decide +kernel
  refine ⟨hstart, ?_⟩
  rcases load_run_cases offPlane with ⟨issues, hload⟩ | ⟨commands, hload, -, hrun⟩
  · rw [hload] at hstops
    cases hstops
  · rw [hload] at hstops
    rcases hrun hstart (s := .recorder .empty) rfl with ⟨t', ht'⟩ | hfault
    · simp only [Except.toOption, Option.map_some, ht', Option.isNone_some, Option.some.injEq,
        Bool.false_eq_true] at hstops
    · exact ⟨commands, hload, hfault⟩

end Script

end TurtleGraphics
