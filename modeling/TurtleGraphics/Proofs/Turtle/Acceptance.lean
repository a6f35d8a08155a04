import Mathlib.Tactic
import TurtleGraphics.Proofs.Script.KeptNumbers
import TurtleGraphics.Proofs.Turtle.Reachable

/-! Which data make a turtle: two finite numbers held in any of the forms of a pair, a heading in its range and a text
that is a pen state. What is accepted is kept as it is, and accepted again. -/

namespace TurtleGraphics

namespace Datum

variable {key : String} {entries : List (Datum × Datum)} {value x y : Datum}

/-- The value of the first entry whose key is the text. -/
def IsEntry (key : String) (entries : List (Datum × Datum)) (value : Datum) : Prop :=
  ∃ before k after, entries = before ++ (k, value) :: after ∧ k.text? = some key ∧
    ∀ e ∈ before, e.1.text? ≠ some key

theorem lookup?_eq_some_iff : lookup? key entries = some value ↔ IsEntry key entries value := by
  unfold lookup? IsEntry
  rw [Option.map_eq_some_iff]
  constructor
  · rintro ⟨⟨k, v⟩, hfind, rfl⟩
    obtain ⟨hkey, before, after, hsplit, hbefore⟩ := List.find?_eq_some_iff_append.mp hfind
    refine ⟨before, k, after, hsplit, of_decide_eq_true hkey, ?_⟩
    intro e he heq
    have hmissed := hbefore e he
    rw [decide_eq_true heq] at hmissed
    cases hmissed
  · rintro ⟨before, k, after, hsplit, hkey, hbefore⟩
    refine ⟨(k, value), List.find?_eq_some_iff_append.mpr ⟨decide_eq_true hkey, before, after, hsplit, ?_⟩, rfl⟩
    intro e he
    rw [decide_eq_false (hbefore e he)]
    rfl

/-- The data that hold two others: points, dictionaries with both coordinates, and whatever has exactly two items, which
for a text are its characters and for bytes their values. -/
inductive HoldsPair : Datum → Datum → Datum → Prop where
  | point (x y : Datum) : HoldsPair (.point x y) x y
  | dict {entries : List (Datum × Datum)} {x y : Datum} :
      IsEntry "x" entries x → IsEntry "y" entries y → HoldsPair (.dict entries) x y
  | list (x y : Datum) : HoldsPair (.list [x, y]) x y
  | tuple (x y : Datum) : HoldsPair (.tuple [x, y]) x y
  | bytes (a b : UInt8) : HoldsPair (.bytes [a, b]) (.int a.toNat) (.int b.toNat)
  | text {value : Datum} {s : String} {a b : Char} : value.text? = some s → s.toList = [a, b] →
      HoldsPair value (.text (String.singleton a)) (.text (String.singleton b))
  | brokenText (a b : CodePoint) :
      HoldsPair (.brokenText [a, b]) (.ofLooseText (.ofPoints [a])) (.ofLooseText (.ofPoints [b]))

end Datum

namespace Validate

variable {value x y positionValue headingValue penValue : Datum} {fault : Fault}

theorem coordinates_of_text {s : String} {a b : Char} (hs : value.text? = some s) (hchars : s.toList = [a, b]) :
    coordinates value = .ok (.text (String.singleton a), .text (String.singleton b)) := by
  have hread : value.text?.map String.toList = some [a, b] := by rw [hs, Option.map_some, hchars]
  unfold coordinates
  cases value with
  | text t => dsimp only; rw [hread]
  | pen p => dsimp only; rw [hread]
  | verb v => dsimp only; rw [hread]
  | _ => cases hs

theorem coordinates_eq_ok_iff : coordinates value = .ok (x, y) ↔ value.HoldsPair x y := by
  constructor
  · intro h
    unfold coordinates at h
    split at h
    · cases h; exact .point _ _
    · split at h
      · next hx hy =>
        cases h
        exact .dict (Datum.lookup?_eq_some_iff.mp hx) (Datum.lookup?_eq_some_iff.mp hy)
      · cases h
      · cases h
    · cases h; exact .list _ _
    · cases h; exact .tuple _ _
    · cases h; exact .bytes _ _
    · cases h; exact .brokenText _ _
    · split at h
      · next hread =>
        cases h
        obtain ⟨s, hs, hchars⟩ := Option.map_eq_some_iff.mp hread
        exact .text hs hchars
      · cases h
  · intro h
    cases h with
    | dict hx hy =>
      unfold coordinates
      dsimp only
      rw [Datum.lookup?_eq_some_iff.mpr hx, Datum.lookup?_eq_some_iff.mpr hy]
    | text hs hchars => exact coordinates_of_text hs hchars
    | _ => rfl

/-- The form of a pair is looked at once, and only its coordinates count. -/
theorem point_of_holdsPair (h : value.HoldsPair x y) : point value = point (.point x y) := by
  unfold point
  rw [coordinates_eq_ok_iff.mpr h]
  rfl

theorem point_eq_ok_iff {p : Point} :
    point value = .ok p ↔ value.HoldsPair (.number p.x) (.number p.y) ∧ p.IsFinite := by
  constructor
  · intro h
    refine ⟨?_, isFinite_of_point h⟩
    unfold point at h
    obtain ⟨⟨x, y⟩, hpair, h⟩ := ok_of_bind_ok h
    dsimp only at h
    split at h
    · obtain ⟨rfl, -⟩ := isFinite_of_finitePoint h
      exact coordinates_eq_ok_iff.mp hpair
    · cases h
  · rintro ⟨hpair, hfinite⟩
    rw [point_of_holdsPair hpair]
    exact finitePoint_of_isFinite hfinite

theorem inRange_iff {x : Number} :
    inRange x = true ↔ ∃ u : Int, x.place? = some (.at u) ∧ -360 * unitsPerOne ≤ u ∧ u ≤ 360 * unitsPerOne := by
  refine ⟨place_of_inRange, ?_⟩
  rintro ⟨u, hu, hlow, hhigh⟩
  exact inRange_of_place hu hlow hhigh

theorem heading_eq_ok_iff {x : Number} : heading value = .ok x ↔ value = .number x ∧ inRange x = true := by
  constructor
  · intro h
    refine ⟨?_, inRange_of_heading h⟩
    cases value with
    | number y =>
      unfold heading headingNumber at h
      dsimp only at h
      split at h
      · cases h; rfl
      · cases h
    | _ => cases h
  · rintro ⟨rfl, hrange⟩
    exact if_pos hrange

theorem pen_eq_ok_iff {p : Pen} : pen value = .ok p ↔ value.text? = some p.text := by
  constructor
  · intro h
    unfold pen at h
    split at h
    · cases h
    · split at h
      · cases h
      · next s hs =>
        split at h
        · next hp =>
          cases h
          rw [hs, Pen.ofText?_eq_some_iff.mp hp]
        · cases h
  · intro h
    unfold pen
    split
    · cases h
    · rw [h]
      dsimp only
      rw [Pen.ofText?_text]

theorem turtle_eq_ok_iff {t : Turtle} :
    turtle positionValue headingValue penValue = .ok t ↔
      positionValue.HoldsPair (.number t.position.x) (.number t.position.y) ∧ headingValue = .number t.heading ∧
        penValue.text? = some t.pen.text ∧ t.Sound := by
  constructor
  · intro h
    have hsound := sound_of_turtle h
    obtain ⟨p, hp, h⟩ := ok_of_bind_ok h
    obtain ⟨x, hx, h⟩ := ok_of_bind_ok h
    obtain ⟨q, hq, h⟩ := ok_of_bind_ok h
    cases h
    exact ⟨(point_eq_ok_iff.mp hp).1, (heading_eq_ok_iff.mp hx).1, pen_eq_ok_iff.mp hq, hsound⟩
  · rintro ⟨hpair, hheading, hpen, hsound⟩
    unfold turtle
    rw [point_eq_ok_iff.mpr ⟨hpair, hsound.position⟩,
      heading_eq_ok_iff.mpr ⟨hheading, inRange_iff.mpr hsound.heading⟩, pen_eq_ok_iff.mpr hpen]
    rfl

/-- The fault of the first argument that is refused, in the order of position, heading and pen. -/
inductive FirstRefusal (positionValue headingValue penValue : Datum) : Fault → Prop where
  | position {fault : Fault} : point positionValue = .error fault →
      FirstRefusal positionValue headingValue penValue fault
  | heading {p : Point} {fault : Fault} : point positionValue = .ok p → heading headingValue = .error fault →
      FirstRefusal positionValue headingValue penValue fault
  | pen {p : Point} {x : Number} {fault : Fault} : point positionValue = .ok p → heading headingValue = .ok x →
      pen penValue = .error fault → FirstRefusal positionValue headingValue penValue fault

theorem turtle_eq_error_iff :
    turtle positionValue headingValue penValue = .error fault ↔
      FirstRefusal positionValue headingValue penValue fault := by
  constructor
  · intro h
    rcases error_of_bind_error h with hp | ⟨p, hp, h⟩
    · exact .position hp
    · rcases error_of_bind_error h with hx | ⟨x, hx, h⟩
      · exact .heading hp hx
      · rcases error_of_bind_error h with hq | ⟨q, -, h⟩
        · exact .pen hp hx hq
        · cases h
  · intro h
    unfold turtle
    cases h with
    | position hp => rw [hp]; rfl
    | heading hp hx => rw [hp, hx]; rfl
    | pen hp hx hq => rw [hp, hx, hq]; rfl

theorem point_ofPoint_of_point {p : Point} (h : point value = .ok p) : point (.ofPoint p) = .ok p :=
  point_eq_ok_iff.mpr ⟨.point _ _, isFinite_of_point h⟩

theorem heading_of_heading {x : Number} (h : heading value = .ok x) : heading (.number x) = .ok x :=
  heading_eq_ok_iff.mpr ⟨rfl, inRange_of_heading h⟩

/-- A turtle is made exactly of what holds two finite numbers, a number in the range of headings and the text of a pen
state, and it has just these; otherwise the first refusal is the fault. It does not matter in which form the coordinates
are given, and the validators take what they gave. -/
theorem turtle_accepts (positionValue headingValue penValue : Datum) :
    (∀ t, turtle positionValue headingValue penValue = .ok t ↔
      positionValue.HoldsPair (.number t.position.x) (.number t.position.y) ∧ headingValue = .number t.heading ∧
        penValue.text? = some t.pen.text ∧ t.Sound) ∧
    (∀ fault, turtle positionValue headingValue penValue = .error fault ↔
      FirstRefusal positionValue headingValue penValue fault) ∧
    (∀ x y, point (.tuple [x, y]) = point (.point x y) ∧ point (.list [x, y]) = point (.point x y) ∧
      point (.dict [(.text "x", x), (.text "y", y)]) = point (.point x y)) ∧
    (point positionValue >>= fun p => point (.ofPoint p)) = point positionValue ∧
    (heading headingValue >>= fun x => heading (.number x)) = heading headingValue ∧
    (pen penValue >>= fun q => pen (.pen q)) = pen penValue := by
  refine ⟨fun t => turtle_eq_ok_iff, fun fault => turtle_eq_error_iff, ?_, ?_, ?_, ?_⟩
  · intro x y
    have hx : Datum.IsEntry "x" [(.text "x", x), (.text "y", y)] x := ⟨[], _, _, rfl, rfl, nofun⟩
    have hy : Datum.IsEntry "y" [(.text "x", x), (.text "y", y)] y :=
      ⟨[(.text "x", x)], _, [], rfl, rfl, by simp [Datum.text?]⟩
    exact ⟨point_of_holdsPair (.tuple x y), point_of_holdsPair (.list x y), point_of_holdsPair (.dict hx hy)⟩
  · cases hp : point positionValue with
    | error fault => rfl
    | ok p => exact point_ofPoint_of_point hp
  · cases hx : heading headingValue with
    | error fault => rfl
    | ok x => exact heading_of_heading hx
  · cases hq : pen penValue with
    | error fault => rfl
    | ok q =>
      have htext : (Datum.pen q).text? = some q.text := rfl
      exact pen_eq_ok_iff.mpr htext

end Validate

end TurtleGraphics
