import Mathlib.Tactic
import TurtleGraphics.Proofs.Command.CommittedPrefix
import TurtleGraphics.Proofs.Script.KeptNumbers
import TurtleGraphics.Standard

/-! Running commands after a script has held them. The two runs go side by side: the turtles differ at most in the kind
of the number that is their heading. -/

namespace TurtleGraphics

/-- Two computations end alike: with related results, or with faults of one kind. -/
inductive EndAlike {α : Type} (R : α → α → Prop) : Except Fault α → Except Fault α → Prop where
  | ok {a b : α} : R a b → EndAlike R (.ok a) (.ok b)
  | error {f g : Fault} : g.kind = f.kind → EndAlike R (.error f) (.error g)

namespace Fault

theorem kind_of_isWritable {f : Fault} (h : f.isWritable = true) : f.kind = f.causeKind := if_pos h

end Fault

namespace Outcome

structure Alike (R : Turtle → Turtle → Prop) (o p : Outcome) : Prop where
  surface : p.surface = o.surface
  result : EndAlike R o.result p.result

variable {R S : Turtle → Turtle → Prop} {o p : Outcome}

theorem Alike.andThen {f g : Transition} (h : o.Alike R p)
    (hfg : ∀ {t u : Turtle} (s : Surface), R t u → (f t s).Alike S (g u s)) :
    (o.andThen f).Alike S (p.andThen g) := by
  obtain ⟨result, s⟩ := o
  obtain ⟨result', s'⟩ := p
  obtain ⟨hsurface, hresult⟩ := h
  cases hsurface
  cases hresult with
  | ok htu => exact hfg s htu
  | error hkind => exact ⟨rfl, .error hkind⟩

theorem Alike.mono (h : o.Alike R p) (hRS : ∀ {t u : Turtle}, R t u → S t u) : o.Alike S p := by
  refine ⟨h.surface, ?_⟩
  cases o
  cases p
  cases h.result with
  | ok htu => exact .ok (hRS htu)
  | error hkind => exact .error hkind

end Outcome

namespace Turtle

/-- Two turtles side by side. What the second holds is kept of what the first one does. -/
structure KeptAs (t u : Turtle) : Prop where
  sound : t.Sound
  position : u.position = t.position
  heading : t.heading.KeptAs u.heading
  pen : u.pen = t.pen

/-- Turtles that are equal by the values of their numbers. -/
structure Equals (t u : Turtle) : Prop where
  x : t.position.x.equals u.position.x = true
  y : t.position.y.equals u.position.y = true
  heading : t.heading.equals u.heading = true
  pen : t.pen = u.pen

theorem Sound.inRange {t : Turtle} (h : t.Sound) : Validate.inRange t.heading = true := by
  obtain ⟨u, hu, hlow, hhigh⟩ := h.heading
  exact Validate.inRange_of_place hu hlow hhigh

theorem KeptAs.refl {t : Turtle} (h : t.Sound) : t.KeptAs t := ⟨h, rfl, .refl t.heading, rfl⟩

theorem KeptAs.equals {t u : Turtle} (h : t.KeptAs u) : t.Equals u := by
  refine ⟨?_, ?_, h.heading.equals h.sound.inRange, h.pen.symm⟩
  · rw [h.position]
    exact h.sound.position.x.equals_self
  · rw [h.position]
    exact h.sound.position.y.equals_self

end Turtle

namespace Motion

variable {x y : Number}

theorem binary64_of_isFinite (h : x.IsFinite) : binary64 x = .ok x.nearest := by
  unfold binary64
  rw [h.toBinary64?]

theorem binary64_keptAs (h : x.KeptAs y) (hx : x.IsFinite) : binary64 y = binary64 x := by
  rw [binary64_of_isFinite hx, binary64_of_isFinite (h.isFinite hx), h.nearest_eq]

theorem direction_keptAs [Platform] (h : x.KeptAs y) (hx : x.IsFinite) : direction y = direction x := by
  unfold direction radians
  rw [binary64_keptAs h hx]

/-- The numbers in the message about a way that leaves the plane can always be written. -/
theorem kind_leavesPlane {start : Point} (hx : x.IsFinite) (hstart : start.IsFinite) :
    (Fault.domain (.leavesPlane (.number x) (.number start.x) (.number start.y))).kind = .domain := by
  refine Fault.kind_of_isWritable ?_
  simp only [Fault.isWritable, DomainFault.isWritable, Datum.isWritable, hx.isWritable, hstart.x.isWritable,
    hstart.y.isWritable, Bool.and_self]

/-- A way that leaves the plane is refused with one kind of fault, however its length is written. -/
theorem arrive_alike {start : Point} (hx : x.IsFinite) (hy : y.IsFinite) (hstart : start.IsFinite) (a b : Binary64) :
    EndAlike Eq (arrive (.number x) (.number start.x) (.number start.y) a b)
      (arrive (.number y) (.number start.x) (.number start.y) a b) := by
  unfold arrive
  split
  · exact .ok rfl
  · exact .error ((kind_leavesPlane hy hstart).trans (kind_leavesPlane hx hstart).symm)

theorem travel_keptAs [Platform] {heading heading' : Number} {start : Point} (h : x.KeptAs y) (hx : x.IsFinite)
    (hheading : heading.KeptAs heading') (hrange : Validate.inRange heading = true) (hstart : start.IsFinite) :
    EndAlike Eq (travel x heading start) (travel y heading' start) := by
  unfold travel
  rw [direction_keptAs hheading (Number.isFinite_of_inRange hrange), binary64_keptAs h hx, binary64_of_isFinite hx,
    binary64_of_isFinite hstart.x, binary64_of_isFinite hstart.y]
  cases direction heading with
  | error fault => exact .error rfl
  | ok d => exact arrive_alike hx (h.isFinite hx) hstart _ _

end Motion

namespace Transition

variable {t u : Turtle} {x y : Number}

theorem turned_keptAs (htu : t.KeptAs u) (hxy : x.KeptAs y) (hx : x.IsFinite) :
    EndAlike Turtle.KeptAs (turned x t) (turned y u) := by
  obtain ⟨z, z', hz, hz', hsame⟩ := Number.add?_keptAs htu.heading hxy htu.sound.inRange hx
  unfold turned Validate.headingNumber
  rw [hz, hz']
  dsimp only
  rw [hsame.inRange]
  cases hrange : Validate.inRange z with
  | true =>
    have hsound : Turtle.Sound { t with heading := z } :=
      ⟨Validate.place_of_inRange hrange, htu.sound.position, htu.sound.pen⟩
    exact .ok ⟨hsound, htu.position, hsame.kept hrange, htu.pen⟩
  | false =>
    have hkind : (Fault.domain (.headingOutOfRange z)).kind = .domain := Fault.kind_of_isWritable hsame.writable.1
    have hkind' : (Fault.domain (.headingOutOfRange z')).kind = .domain := Fault.kind_of_isWritable hsame.writable.2
    exact .error (hkind'.trans hkind.symm)

theorem moveBy_keptAs [Platform] (htu : t.KeptAs u) (hxy : x.KeptAs y) (hx : x.IsFinite) (s : Surface) :
    (moveBy x t s).Alike Turtle.KeptAs (moveBy y u s) := by
  have htravel := Motion.travel_keptAs hxy hx htu.heading htu.sound.inRange htu.sound.position
  rw [moveBy_eq, moveBy_eq, htu.position, htu.pen]
  cases hstop : Motion.travel x t.heading t.position with
  | error fault =>
    rw [hstop] at htravel
    generalize Motion.travel y u.heading t.position = other at htravel
    cases htravel with
    | error hkind => exact ⟨rfl, .error hkind⟩
  | ok stop =>
    rw [hstop] at htravel
    generalize Motion.travel y u.heading t.position = other at htravel
    cases htravel with
    | ok heq =>
      cases heq
      dsimp only
      -- Both make the same calls, so that they meet the same fault of the surface, if any.
      cases hcalls : s.calls (moveCalls t.pen t.position stop) with
      | mk s' refused =>
        cases refused with
        | some fault => exact ⟨rfl, .error rfl⟩
        | none =>
          have hsound : Turtle.Sound { t with position := stop } :=
            ⟨htu.sound.heading, (Motion.isExact_of_travel hstop).isFinite, htu.sound.pen⟩
          exact ⟨rfl, .ok ⟨hsound, rfl, htu.heading, rfl⟩⟩

theorem setPen_keptAs (pen : Pen) (htu : t.KeptAs u) (s : Surface) :
    (setPen pen t s).Alike Turtle.KeptAs (setPen pen u s) := by
  have hsound : Turtle.Sound { t with pen := pen } := ⟨htu.sound.heading, htu.sound.position, Turtle.pen_cases _⟩
  exact ⟨rfl, .ok ⟨hsound, htu.position, htu.heading, rfl⟩⟩

/-- What a verb makes of a finite number, and a name that is no verb of anything. -/
def ofVerb [Platform] (amount : Number) : Option Verb → Transition
  | some .move => moveBy amount
  | some .turn => turnBy amount
  | some .penUp => setPen .up
  | some .penDown => setPen .down
  | none => identity

theorem ofVerb_keptAs [Platform] (v : Option Verb) (htu : t.KeptAs u) (hxy : x.KeptAs y) (hx : x.IsFinite)
    (s : Surface) :
    (ofVerb x v t s).Alike Turtle.KeptAs (ofVerb y v u s) := by
  cases v with
  | none => exact ⟨rfl, .ok htu⟩
  | some v =>
    cases v with
    | move => exact moveBy_keptAs htu hxy hx s
    | turn =>
      unfold ofVerb
      rw [turnBy_eq_quiet, turnBy_eq_quiet]
      exact ⟨rfl, turned_keptAs htu hxy hx⟩
    | penUp => exact setPen_keptAs .up htu s
    | penDown => exact setPen_keptAs .down htu s

end Transition

namespace Command

/-- A command that a script can hold and give back: its name is a text of characters, and its value is missing or a
number with a finite binary64 number nearest to it. -/
structure IsPortable (c : Command) : Prop where
  name : ∃ s, c.name.text? = some s
  value : c.value = .null ∨ ∃ x : Number, c.value = .number x ∧ x.nearest.isFinite = true

variable {c : Command}

/-- No integer that has a finite binary64 number is too long. -/
theorem IsPortable.isScriptable {d : Json.Dialect} (hdigits : ∀ negative, 309 ≤ d.digits negative)
    (h : c.IsPortable) : c.IsScriptable d := by
  refine ⟨h.name, ?_⟩
  rcases h.value with hnull | ⟨x, hx, hfinite⟩
  · exact .inl hnull
  · refine .inr ⟨x, hx, ?_⟩
    cases x with
    | float x => trivial
    | int n =>
      have hshort := Number.digitCount_le_of_isFinite (Number.isFinite_iff.mpr hfinite)
      exact ⟨hshort.trans (by decide), hshort.trans (hdigits _)⟩

theorem IsPortable.isBounded (h : c.IsPortable) : c.isBounded = true := by
  unfold Command.isBounded number?
  rcases h.value with hnull | ⟨x, hx, hfinite⟩
  · rw [hnull]
    rfl
  · rw [hx]
    exact hfinite

theorem verb?_kept (c : Command) : c.kept.verb? = c.verb? := by
  unfold verb? kept
  cases h : c.name.text? with
  | none => exact congrArg (Option.bind · Verb.ofText?) h
  | some s => rfl

theorem IsPortable.exists_amount (h : c.IsPortable) :
    ∃ x y, c.amount = .number x ∧ c.kept.amount = .number y ∧ x.KeptAs y ∧ x.IsFinite := by
  unfold amount kept number?
  rcases h.value with hnull | ⟨x, hx, hfinite⟩
  · rw [hnull]
    exact ⟨.int 0, .int 0, rfl, rfl, .refl _, Number.isFinite_of_small (by decide)⟩
  · rw [hx]
    exact ⟨x, .float x.nearest, rfl, rfl, .inr rfl, Number.isFinite_iff.mpr hfinite⟩

theorem execute_eq_ofVerb [Platform] {x : Number} (h : c.amount = .number x) (hx : x.IsFinite) :
    c.execute = Transition.ofVerb x c.verb? := by
  have hdistance : Validate.distance (.number x) = .ok x := by
    unfold Validate.distance
    dsimp only
    rw [Validate.finite_eq_ok_iff.mpr (Number.isFinite?_eq_true_iff.mpr hx)]
    rfl
  funext t s
  unfold execute transition
  rw [h]
  cases c.verb? with
  | none => rfl
  | some v =>
    cases v with
    | move =>
      dsimp only
      unfold Transition.move
      rw [hdistance]
      rfl
    | turn => rfl
    | penUp => rfl
    | penDown => rfl

theorem execute_kept [Platform] (h : c.IsPortable) {t u : Turtle} (htu : t.KeptAs u) (s : Surface) :
    (c.execute t s).Alike Turtle.KeptAs (c.kept.execute u s) := by
  obtain ⟨x, y, hx, hy, hxy, hfinite⟩ := h.exists_amount
  rw [execute_eq_ofVerb hx hfinite, execute_eq_ofVerb hy (hxy.isFinite hfinite), verb?_kept]
  exact Transition.ofVerb_keptAs c.verb? htu hxy hfinite s

variable {commands : List Command}

theorem run_kept [Platform] (h : ∀ c ∈ commands, c.IsPortable) {t u : Turtle} (htu : t.KeptAs u) (s : Surface) :
    (run commands t s).Alike Turtle.KeptAs (run (commands.map kept) u s) := by
  induction commands generalizing t u s with
  | nil => exact ⟨rfl, .ok htu⟩
  | cons c commands ih =>
    rw [List.map_cons, run_cons, run_cons]
    refine (execute_kept (h c List.mem_cons_self) htu s).andThen ?_
    intro t' u' s' htu'
    exact ih (fun k hk => h k (List.mem_cons_of_mem c hk)) htu' s'

theorem completed_kept [Platform] (h : ∀ c ∈ commands, c.IsPortable) {t u : Turtle} (htu : t.KeptAs u) (s : Surface) :
    completed (commands.map kept) u s = completed commands t s := by
  induction commands generalizing t u s with
  | nil => rfl
  | cons c commands ih =>
    obtain ⟨hsurface, hresult⟩ := execute_kept (h c List.mem_cons_self) htu s
    rw [List.map_cons, completed, completed]
    generalize c.execute t s = o at hsurface hresult
    generalize c.kept.execute u s = p at hsurface hresult
    obtain ⟨result, s₁⟩ := o
    obtain ⟨result', s₂⟩ := p
    cases hsurface
    cases hresult with
    | error hkind => rfl
    | ok htu' => exact congrArg (· + 1) (ih (fun k hk => h k (List.mem_cons_of_mem c hk)) htu' s₁)

end Command

namespace Script

open Command

/-- Commands with names of characters that are written as a script and read again do what they did: from a turtle that
can be reached, the two runs leave the same surface and equal turtles, or fail behind equally many commands with faults
of one kind. -/
theorem run_reload [Platform] [Validation] {d : Json.Dialect} {Numeric : String → Binary64 → Prop}
    (reads : Validation.Reads d) (lax : Validation.IsLax Numeric) {indent : Option Int}
    (hindent : isIndent indent = true) {commands : List Command} (h : ∀ c ∈ commands, c.IsPortable)
    {position heading pen : Datum} {t₀ t : Turtle} {s₀ s₁ : Surface} {moves : Nat}
    (hstart : Validate.turtle position heading pen = .ok t₀) (hreach : Reaches t₀ s₀ t s₁ moves) (s : Surface) :
    ∃ text again, write indent commands = .ok text ∧ reload text = .ok again ∧
      (run commands t s).Alike Turtle.Equals (run again t s) ∧ completed again t s = completed commands t s := by
  obtain ⟨text, hwrite, hreload⟩ :=
    reload_write_forms reads lax hindent fun c hc => (h c hc).isScriptable reads.digits
  have hbounded : commands.all Command.isBounded = true := List.all_eq_true.mpr fun c hc => (h c hc).isBounded
  rw [if_pos hbounded] at hreload
  have hsound : t.Sound := hreach.advances.1.sound (Validate.sound_of_turtle hstart)
  have hself : t.KeptAs t := .refl hsound
  exact ⟨text, commands.map Command.kept, hwrite, hreload, (run_kept h hself s).mono Turtle.KeptAs.equals,
    completed_kept h hself s⟩

/-- A line whose length loses its last bit, and a turn so far out of range that the rounded sum is not the exact one. -/
def farTurns : List Command :=
  [⟨.verb .penDown, .null⟩, ⟨.text "TURN", .int 90⟩, ⟨.text "MOVE", .int 9007199254740993⟩,
    ⟨.text "TURN", .int 100000000000000001⟩, ⟨.text "PEN UP", .null⟩]

theorem isPortable_farTurns : ∀ c ∈ farTurns, c.IsPortable := by
  intro c hc
  simp only [farTurns, List.mem_cons, List.not_mem_nil, or_false] at hc
  rcases hc with rfl | rfl | rfl | rfl | rfl
  · exact ⟨⟨_, rfl⟩, .inl rfl⟩
  · exact ⟨⟨_, rfl⟩, .inr ⟨_, rfl, by decide +kernel⟩⟩
  · exact ⟨⟨_, rfl⟩, .inr ⟨_, rfl, by decide +kernel⟩⟩
  · exact ⟨⟨_, rfl⟩, .inr ⟨_, rfl, by decide +kernel⟩⟩
  · exact ⟨⟨_, rfl⟩, .inl rfl⟩

def unmoved : Turtle := ⟨⟨.int 0, .int 0⟩, .int 0, .up⟩

open Standard

theorem run_reload_farTurns :
    ∃ text again, write (some 2) farTurns = .ok text ∧ reload text = .ok again ∧
      (run farTurns unmoved (.recorder .empty)).Alike Turtle.Equals (run again unmoved (.recorder .empty)) ∧
      completed again unmoved (.recorder .empty) = 3 := by
  have hstart : Validate.turtle (.tuple [.int 0, .int 0]) (.int 0) (.text "up") = .ok unmoved := by
    apply ok_of_toOption
    decide +kernel
  have hreach : Reaches unmoved (.recorder .empty) unmoved (.recorder .empty) 0 := .start
  have hthree : completed farTurns unmoved (.recorder .empty) = 3 := by decide +kernel
  have hindent : isIndent (some 2) = true := rfl
  obtain ⟨text, again, hwrite, hreload, halike, hcompleted⟩ :=
    run_reload Validation.reads_standard Validation.isLax_standard hindent isPortable_farTurns hstart hreach
      (.recorder .empty)
  exact ⟨text, again, hwrite, hreload, halike, hcompleted.trans hthree⟩

/-- A name that is half of a surrogate pair does nothing, and its script is refused. -/
theorem surrogate_not_reloaded :
    run [⟨.brokenText [.surrogate 55296], .null⟩] unmoved (.recorder .empty) = ⟨.ok unmoved, .recorder .empty⟩ ∧
      ∃ text, write none [⟨.brokenText [.surrogate 55296], .null⟩] = .ok text ∧ ¬∃ again, reload text = .ok again := by
  have hwrite : (write none [⟨.brokenText [.surrogate 55296], .null⟩]).toOption =
      some "[\x7b\"name\": \"\\ud800\"\x7d]" := by
    decide +kernel
  have hreload : (reload "[\x7b\"name\": \"\\ud800\"\x7d]").toOption.isSome = false := by decide +kernel
  refine ⟨rfl, _, ok_of_toOption hwrite, ?_⟩
  rintro ⟨again, h⟩
  rw [h] at hreload
  cases hreload

end Script

end TurtleGraphics
