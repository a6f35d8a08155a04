import Mathlib.Tactic
import TurtleGraphics.Proofs.Json.Spelling

/-! The grammar of JSON text. A text is read as a value exactly when it spells the value. -/

namespace TurtleGraphics.Json

/-- Parts with commas between them, and blanks around each. -/
inductive SpellsRow {α : Type} (part : List Char → α → Prop) : List Char → List α → Prop where
  | last {before text after : List Char} {x : α} (front : IsBlank before) (spelled : part text x)
      (back : IsBlank after) : SpellsRow part (before ++ (text ++ after)) [x]
  | cons {before text after more : List Char} {x : α} {xs : List α} (front : IsBlank before) (spelled : part text x)
      (back : IsBlank after) : SpellsRow part more xs →
      SpellsRow part (before ++ (text ++ (after ++ ',' :: more))) (x :: xs)

/-- A name, a colon and a value, with blanks between them. -/
inductive SpellsMember (value : List Char → Json → Prop) : List Char → LooseText × Json → Prop where
  | mk {name before after text : List Char} {s : LooseText} {j : Json} (named : SpellsText name s)
      (front : IsBlank before) (back : IsBlank after) (spelled : value text j) :
      SpellsMember value (name ++ (before ++ ':' :: (after ++ text))) (s, j)

/-- A value, of which brackets hold values of some kind. -/
inductive SpellsOver (d : Dialect) (inside : List Char → Json → Prop) : List Char → Json → Prop where
  | word {text : List Char} {j : Json} : (text, j) ∈ words → SpellsOver d inside text j
  | number {text : List Char} {j : Json} : SpellsNumber d text j → SpellsOver d inside text j
  | string {text : List Char} {s : LooseText} : SpellsText text s → SpellsOver d inside text (.string s)
  | noItems {blank : List Char} : IsBlank blank → SpellsOver d inside ('[' :: (blank ++ [']'])) (.array [])
  | array {row : List Char} {items : List Json} :
      SpellsRow inside row items → SpellsOver d inside ('[' :: (row ++ [']'])) (.array items)
  | noMembers {blank : List Char} : IsBlank blank → SpellsOver d inside ('\x7b' :: (blank ++ ['\x7d'])) (.object [])
  | object {row : List Char} {members : List (LooseText × Json)} :
      SpellsRow (SpellsMember inside) row members → SpellsOver d inside ('\x7b' :: (row ++ ['\x7d'])) (.object members)

/-- A value in which at most so many brackets with something in them are open at one place. -/
def Spells (d : Dialect) : (room : Nat) → List Char → Json → Prop
  | 0 => SpellsOver d fun _ _ => False
  | room + 1 => SpellsOver d (Spells d room)

def SpellsAll (d : Dialect) (text : List Char) (j : Json) : Prop :=
  ∃ before value after, text = before ++ (value ++ after) ∧ IsBlank before ∧ Spells d d.deepest value j ∧ IsBlank after

/-- What a value with so much room holds in its brackets. -/
def SpellsInside (d : Dialect) : (room : Nat) → List Char → Json → Prop
  | 0 => fun _ _ => False
  | room + 1 => Spells d room

theorem spells_eq (d : Dialect) (room : Nat) : Spells d room = SpellsOver d (SpellsInside d room) := by
  cases room <;> rfl

theorem SpellsRow.exists_part {α : Type} {part : List Char → α → Prop} {row : List Char} {xs : List α}
    (h : SpellsRow part row xs) : ∃ text x, part text x := by
  cases h with
  | last _ spelled _ => exact ⟨_, _, spelled⟩
  | cons _ spelled _ _ => exact ⟨_, _, spelled⟩

theorem isBlank_nil : IsBlank [] := List.forall_mem_nil _

theorem IsBlank.append {first second : List Char} (h : IsBlank first) (h' : IsBlank second) :
    IsBlank (first ++ second) :=
  List.forall_mem_append.mpr ⟨h, h'⟩

theorem exists_blank (text : List Char) : ∃ blank, text = blank ++ skipSpace text ∧ IsBlank blank :=
  ⟨text.takeWhile isSpace, List.takeWhile_append_dropWhile.symm, fun _ => of_mem_takeWhile⟩

theorem skipSpace_of_blank {blank : List Char} (h : IsBlank blank) : skipSpace blank = [] := by
  have hall : skipSpace (blank ++ []) = skipSpace [] := List.dropWhile_append_of_pos h
  rw [← List.append_nil blank, hall]
  rfl

theorem numberEnd_of_blank {blank : List Char} (h : IsBlank blank) : NumberEnd blank := by
  cases blank with
  | nil => exact nofun
  | cons c blank => exact IsMark.numberEnd (.inl (h c List.mem_cons_self)) blank

theorem SpellsRow.blank_append {α : Type} {part : List Char → α → Prop} {blank row : List Char} {xs : List α}
    (hb : IsBlank blank) (h : SpellsRow part row xs) : SpellsRow part (blank ++ row) xs := by
  cases h with
  | last front spelled back =>
    rw [← List.append_assoc]
    exact .last (hb.append front) spelled back
  | cons front spelled back more =>
    rw [← List.append_assoc]
    exact .cons (hb.append front) spelled back more

section Complete

variable {d : Dialect} {room : Nat} {inside : List Char → Json → Prop}

/-- All spelled values of some kind are read, with fuel by the lengths of their texts. -/
structure Covers (d : Dialect) (room : Nat) (inside : List Char → Json → Prop) : Prop where
  start : ∀ {text j}, inside text j → ∃ c cs, text = c :: cs ∧ isStart c = true
  read : ∀ {text j rest} (fuel : Nat), inside text j → 2 * text.length ≤ fuel → NumberEnd rest →
    readValue d fuel room (text ++ rest) = .ok (j, rest)

theorem Covers.skipSpace_append (h : Covers d room inside) {before text : List Char} {j : Json} (hb : IsBlank before)
    (ht : inside text j) (rest : List Char) : skipSpace (before ++ (text ++ rest)) = text ++ rest := by
  obtain ⟨c, cs, rfl, hc⟩ := h.start ht
  exact skipSpace_blank hb (isStart_iff.mp hc).1 (cs ++ rest)

theorem Covers.readItems (h : Covers d room inside) {row : List Char} {items : List Json}
    (hrow : SpellsRow inside row items) (fuel : Nat) (hf : 2 * row.length + 1 ≤ fuel) (rest : List Char) :
    readItems d fuel room (skipSpace (row ++ ']' :: rest)) = .ok (items, rest) := by
  -- One unit of fuel goes to this call. The comma pays for the call on the items behind it.
  obtain ⟨n, rfl⟩ : ∃ n, fuel = n + 1 := ⟨fuel - 1, by omega⟩
  induction hrow generalizing n with
  | last front spelled back =>
    simp only [List.length_append] at hf
    have hread := h.read n spelled (by omega) (numberEnd_blank back (.inr (.inr (.inl rfl)) : IsMark ']') rest)
    simp only [List.append_assoc]
    rw [h.skipSpace_append front spelled]
    exact readItems_last hread (skipSpace_blank back rfl rest)
  | @cons before text after more _ _ front spelled back _ ih =>
    simp only [List.length_append, List.length_cons] at hf
    obtain ⟨m, rfl⟩ : ∃ m, n = m + 1 := ⟨n - 1, by omega⟩
    have hend := numberEnd_blank back (.inr (.inl rfl) : IsMark ',') (more ++ ']' :: rest)
    have hread := h.read (m + 1) spelled (by omega) hend
    simp only [List.append_assoc, List.cons_append]
    rw [h.skipSpace_append front spelled, readItems_more hread (skipSpace_blank back rfl _), ih m (by omega)]
    rfl

theorem SpellsMember.exists_quote {value : List Char → Json → Prop} {text : List Char} {m : LooseText × Json}
    (h : SpellsMember value text m) : ∃ tail, text = '"' :: tail := by
  cases h with
  | mk named _ _ _ =>
    obtain ⟨tail, rfl, -⟩ := readString_of_spells named
    exact ⟨_, rfl⟩

theorem skipSpace_append_member {value : List Char → Json → Prop} {before text : List Char} {m : LooseText × Json}
    (hb : IsBlank before) (h : SpellsMember value text m) (rest : List Char) :
    skipSpace (before ++ (text ++ rest)) = text ++ rest := by
  obtain ⟨tail, rfl⟩ := h.exists_quote
  exact skipSpace_blank hb rfl (tail ++ rest)

theorem Covers.readName (h : Covers d room inside) {text : List Char} {m : LooseText × Json}
    (hm : SpellsMember inside text m) :
    ∃ value, inside value m.2 ∧ value.length + 3 ≤ text.length ∧
      ∀ rest, readName (text ++ rest) = .ok (m.1, value ++ rest) := by
  cases hm with
  | @mk name before after value s j named front back spelled =>
    obtain ⟨tail, rfl, hread⟩ := readString_of_spells named
    refine ⟨value, spelled, ?_, fun rest => ?_⟩
    · obtain ⟨body, points, hbody, -⟩ := named
      rw [hbody]
      simp only [List.length_append, List.length_cons]
      omega
    · simp only [List.append_assoc, List.cons_append]
      rw [readName_quote (hread _) (skipSpace_blank front rfl _), h.skipSpace_append back spelled]

theorem Covers.readMembers (h : Covers d room inside) {row : List Char} {members : List (LooseText × Json)}
    (hrow : SpellsRow (SpellsMember inside) row members) (fuel : Nat) (hf : 2 * row.length + 1 ≤ fuel)
    (rest : List Char) :
    readMembers d fuel room (skipSpace (row ++ '\x7d' :: rest)) = .ok (members, rest) := by
  obtain ⟨n, rfl⟩ : ∃ n, fuel = n + 1 := ⟨fuel - 1, by omega⟩
  induction hrow generalizing n with
  | last front spelled back =>
    simp only [List.length_append] at hf
    obtain ⟨value, hvalue, hlength, hname⟩ := h.readName spelled
    have hread := h.read n hvalue (by omega) (numberEnd_blank back (.inr (.inr (.inr rfl)) : IsMark '\x7d') rest)
    simp only [List.append_assoc]
    rw [skipSpace_append_member front spelled]
    exact readMembers_last (hname _) hread (skipSpace_blank back rfl rest)
  | @cons before text after more _ _ front spelled back _ ih =>
    simp only [List.length_append, List.length_cons] at hf
    obtain ⟨m, rfl⟩ : ∃ m, n = m + 1 := ⟨n - 1, by omega⟩
    obtain ⟨value, hvalue, hlength, hname⟩ := h.readName spelled
    have hend := numberEnd_blank back (.inr (.inl rfl) : IsMark ',') (more ++ '\x7d' :: rest)
    have hread := h.read (m + 1) hvalue (by omega) hend
    simp only [List.append_assoc, List.cons_append]
    rw [skipSpace_append_member front spelled, readMembers_more (hname _) hread (skipSpace_blank back rfl _),
      ih m (by omega)]
    rfl

/-- A number starts with a minus or a digit, and no word starts so. -/
theorem SpellsNumber.exists_start {text : List Char} {j : Json} (h : SpellsNumber d text j) :
    ∃ c cs, text = c :: cs ∧ (c = '-' ∨ c.isDigit = true) ∧ ∀ rest, word? (text ++ rest) = none := by
  cases h with
  | @parts p fractionText powerText negative whole _ _ _ _ =>
    obtain ⟨c, cs, hcons, hc⟩ := whole.exists_digit
    have hword : ∀ rest,
        word? (Binary64.signText negative ++ (p.whole ++ (fractionText ++ powerText)) ++ rest) = none := by
      intro rest
      rw [hcons, List.append_assoc]
      exact word?_number negative hc _
    rw [hcons] at hword ⊢
    cases negative with
    | true => exact ⟨'-', _, rfl, .inl rfl, hword⟩
    | false => exact ⟨c, _, rfl, .inr hc, hword⟩

/-- Behind its blanks a row starts as its first part does. -/
theorem SpellsRow.exists_start {α : Type} {part : List Char → α → Prop} {row : List Char} {xs : List α}
    (h : SpellsRow part row xs) (first : Char → Prop)
    (hpart : ∀ {text x}, part text x → ∃ c cs, text = c :: cs ∧ isSpace c = false ∧ first c) (rest : List Char) :
    ∃ c cs, skipSpace (row ++ rest) = c :: cs ∧ first c := by
  have hstart : ∀ {before text : List Char} {x : α} (_ : IsBlank before) (_ : part text x) (more : List Char),
      ∃ c cs, skipSpace (before ++ (text ++ more)) = c :: cs ∧ first c := by
    intro before text x hb hx more
    obtain ⟨c, cs, rfl, hspace, hfirst⟩ := hpart hx
    exact ⟨c, cs ++ more, skipSpace_blank hb hspace _, hfirst⟩
  cases h with
  | last front spelled back =>
    simp only [List.append_assoc]
    exact hstart front spelled _
  | cons front spelled back _ =>
    simp only [List.append_assoc]
    exact hstart front spelled _

theorem exists_start_over {text : List Char} {j : Json} (h : SpellsOver d inside text j) :
    ∃ c cs, text = c :: cs ∧ isStart c = true := by
  cases h with
  | word hw =>
    obtain ⟨c, cs, rfl, hc, -⟩ := exists_start_word hw
    exact ⟨c, cs, rfl, hc⟩
  | number hn =>
    obtain ⟨c, cs, rfl, hc, -⟩ := hn.exists_start
    exact ⟨c, cs, rfl, isStart_of_lead hc⟩
  | string ht =>
    obtain ⟨tail, rfl, -⟩ := readString_of_spells ht
    exact ⟨_, _, rfl, rfl⟩
  | noItems _ => exact ⟨_, _, rfl, rfl⟩
  | array _ => exact ⟨_, _, rfl, rfl⟩
  | noMembers _ => exact ⟨_, _, rfl, rfl⟩
  | object _ => exact ⟨_, _, rfl, rfl⟩

theorem readValue_of_over (h : (∃ text j, inside text j) → ∃ inner, room = inner + 1 ∧ Covers d inner inside)
    {text rest : List Char} {j : Json} (hs : SpellsOver d inside text j) (n : Nat) (hf : 2 * text.length ≤ n + 1)
    (hr : NumberEnd rest) : readValue d (n + 1) room (text ++ rest) = .ok (j, rest) := by
  cases hs with
  | word hw => exact readValue_word d n room hw rest
  | number hn =>
    obtain ⟨c, cs, rfl, hc, hword⟩ := hn.exists_start
    have hnumber := readValue_of_number d n room (ne_of_lead hc (by decide)) (ne_of_lead hc (by decide))
      (ne_of_lead hc (by decide)) (hword rest)
    exact hnumber.trans (readNumber_of_spells hn hr)
  | string ht =>
    obtain ⟨tail, rfl, hread⟩ := readString_of_spells ht
    rw [List.cons_append, readValue, if_pos rfl, hread]
    rfl
  | noItems hb =>
    simp only [List.cons_append, List.append_assoc, List.nil_append]
    rw [readValue, if_neg (by decide), if_pos rfl, skipSpace_blank hb rfl]
    rfl
  | array hrow =>
    obtain ⟨inner, rfl, hinner⟩ := h hrow.exists_part
    simp only [List.length_append, List.length_cons] at hf
    have hread := hinner.readItems hrow n (by omega) rest
    obtain ⟨c, cs, hskip, hc⟩ := hrow.exists_start (· ≠ ']') (fun hx => by
      obtain ⟨c, cs, hcons, hc⟩ := hinner.start hx
      exact ⟨c, cs, hcons, (isStart_iff.mp hc).1, (isStart_iff.mp hc).2.1⟩) (']' :: rest)
    simp only [List.cons_append, List.append_assoc, List.nil_append]
    rw [hskip] at hread
    rw [readValue_items hskip hc, hread]
    rfl
  | noMembers hb =>
    simp only [List.cons_append, List.append_assoc, List.nil_append]
    rw [readValue, if_neg (by decide), if_neg (by decide), if_pos rfl, skipSpace_blank hb rfl]
    rfl
  | object hrow =>
    obtain ⟨text, m, ⟨_, _, _, spelled⟩⟩ := hrow.exists_part
    obtain ⟨inner, rfl, hinner⟩ := h ⟨_, _, spelled⟩
    simp only [List.length_append, List.length_cons] at hf
    have hread := hinner.readMembers hrow n (by omega) rest
    obtain ⟨c, cs, hskip, hc⟩ := hrow.exists_start (· ≠ '\x7d') (fun hm => by
      obtain ⟨cs, hcons⟩ := hm.exists_quote
      exact ⟨_, cs, hcons, rfl, by decide⟩) ('\x7d' :: rest)
    simp only [List.cons_append, List.append_assoc, List.nil_append]
    rw [hskip] at hread
    rw [readValue_members hskip hc, hread]
    rfl

theorem covers_over (h : (∃ text j, inside text j) → ∃ inner, room = inner + 1 ∧ Covers d inner inside) :
    Covers d room (SpellsOver d inside) := by
  refine ⟨exists_start_over, ?_⟩
  intro text j rest fuel hs hf hr
  obtain ⟨n, rfl⟩ : ∃ n, fuel = n + 1 := by
    obtain ⟨c, cs, rfl, -⟩ := exists_start_over hs
    rw [List.length_cons] at hf
    exact ⟨fuel - 1, by omega⟩
  exact readValue_of_over h hs n hf hr

theorem covers (d : Dialect) (room : Nat) : Covers d room (Spells d room) := by
  induction room with
  | zero => exact covers_over fun ⟨_, _, hfalse⟩ => hfalse.elim
  | succ room ih => exact covers_over fun _ => ⟨room, rfl, ih⟩

end Complete

section Sound

variable {d : Dialect} {fuel room : Nat} {text rest : List Char}

theorem spells_of_word {j : Json} (h : word? text = some (j, rest)) :
    ∃ spelled, text = spelled ++ rest ∧ (spelled, j) ∈ words := by
  obtain ⟨w, hw, heq⟩ := Option.map_eq_some_iff.mp h
  cases heq
  have hprefix : w.1.isPrefixOf text = true := (List.find?_eq_some_iff_append.mp hw).1
  refine ⟨w.1, ?_, List.mem_of_find?_eq_some hw⟩
  exact (List.prefix_iff_eq_append.mp (List.isPrefixOf_iff_prefix.mp hprefix)).symm

theorem spells_of_readName {s : LooseText} (h : readName text = .ok (s, rest)) :
    ∃ name before after, text = name ++ (before ++ ':' :: (after ++ rest)) ∧ SpellsText name s ∧ IsBlank before ∧
      IsBlank after := by
  unfold readName at h
  split at h
  · split at h
    · cases h
    · next behind hname =>
      split at h
      · next more hskip =>
        cases h
        obtain ⟨name, htext, hspelled⟩ := spells_of_readString hname
        obtain ⟨before, hbefore, hfront⟩ := exists_blank behind
        obtain ⟨after, hafter, hback⟩ := exists_blank more
        exact ⟨name, before, after, by rw [htext, hbefore, hskip, ← hafter], hspelled, hfront, hback⟩
      · cases h
  · cases h

/-- What the three readers give with some fuel stands in the text in front of what they leave. -/
structure Sound (d : Dialect) (fuel : Nat) : Prop where
  value : ∀ {room text j rest}, readValue d fuel room text = .ok (j, rest) →
    ∃ spelled, text = spelled ++ rest ∧ Spells d room spelled j
  items : ∀ {room text items rest}, readItems d fuel room text = .ok (items, rest) →
    ∃ row, text = row ++ ']' :: rest ∧ SpellsRow (Spells d room) row items
  members : ∀ {room text members rest}, readMembers d fuel room text = .ok (members, rest) →
    ∃ row, text = row ++ '\x7d' :: rest ∧ SpellsRow (SpellsMember (Spells d room)) row members

variable (ih : Sound d fuel)

include ih

theorem Sound.spells_value {j : Json} (h : readValue d (fuel + 1) room text = .ok (j, rest)) :
    ∃ spelled, text = spelled ++ rest ∧ Spells d room spelled j := by
  rw [spells_eq]
  cases text with
  | nil => cases h
  | cons c text =>
    rw [readValue] at h
    split at h
    · next hquote =>
      obtain ⟨⟨s, more⟩, hs, heq⟩ := ok_of_map_ok h
      cases heq
      obtain ⟨spelled, htext, hspelled⟩ := spells_of_readString hs
      exact ⟨spelled, by rw [hquote, htext], .string hspelled⟩
    · obtain ⟨blank, htext, hblank⟩ := exists_blank text
      split at h
      · next hbracket =>
        split at h
        · next hskip =>
          cases h
          exact ⟨_, by rw [hbracket, htext, hskip]; simp, .noItems hblank⟩
        · obtain ⟨⟨items, more⟩, hitems, heq⟩ := ok_of_map_ok h
          cases heq
          obtain ⟨inner, rfl, hread⟩ := ok_of_enter hitems
          obtain ⟨row, hskip, hrow⟩ := ih.items hread
          exact ⟨_, by rw [hbracket, htext, hskip]; simp, .array (hrow.blank_append hblank)⟩
      · split at h
        · next hbracket =>
          split at h
          · next hskip =>
            cases h
            exact ⟨_, by rw [hbracket, htext, hskip]; simp, .noMembers hblank⟩
          · obtain ⟨⟨members, more⟩, hmembers, heq⟩ := ok_of_map_ok h
            cases heq
            obtain ⟨inner, rfl, hread⟩ := ok_of_enter hmembers
            obtain ⟨row, hskip, hrow⟩ := ih.members hread
            exact ⟨_, by rw [hbracket, htext, hskip]; simp, .object (hrow.blank_append hblank)⟩
        · split at h
          · next hword =>
            cases h
            obtain ⟨spelled, htext, hspelled⟩ := spells_of_word hword
            exact ⟨spelled, htext, .word hspelled⟩
          · obtain ⟨spelled, htext, hspelled⟩ := spells_of_readNumber h
            exact ⟨spelled, htext, .number hspelled⟩

theorem Sound.spells_items {items : List Json} (h : readItems d (fuel + 1) room text = .ok (items, rest)) :
    ∃ row, text = row ++ ']' :: rest ∧ SpellsRow (Spells d room) row items := by
  rw [readItems] at h
  split at h
  · cases h
  · next item behind hitem =>
    obtain ⟨spelled, htext, hspelled⟩ := ih.value hitem
    obtain ⟨after, hbehind, hafter⟩ := exists_blank behind
    split at h
    · next hskip =>
      cases h
      exact ⟨_, by rw [htext, hbehind, hskip]; simp, .last isBlank_nil hspelled hafter⟩
    · next more hskip =>
      obtain ⟨⟨others, left⟩, hothers, heq⟩ := ok_of_map_ok h
      cases heq
      obtain ⟨row, hmore, hrow⟩ := ih.items hothers
      obtain ⟨blank, hmore', hblank⟩ := exists_blank more
      exact ⟨_, by rw [htext, hbehind, hskip, hmore', hmore]; simp,
        .cons isBlank_nil hspelled hafter (hrow.blank_append hblank)⟩
    · cases h

theorem Sound.spells_members {members : List (LooseText × Json)}
    (h : readMembers d (fuel + 1) room text = .ok (members, rest)) :
    ∃ row, text = row ++ '\x7d' :: rest ∧ SpellsRow (SpellsMember (Spells d room)) row members := by
  rw [readMembers] at h
  split at h
  · cases h
  · next name body hname =>
    obtain ⟨quoted, before, between, htext, hquoted, hbefore, hbetween⟩ := spells_of_readName hname
    split at h
    · cases h
    · next value behind hvalue =>
      obtain ⟨spelled, hbody, hspelled⟩ := ih.value hvalue
      obtain ⟨after, hbehind, hafter⟩ := exists_blank behind
      have hmember := SpellsMember.mk hquoted hbefore hbetween hspelled
      split at h
      · next hskip =>
        cases h
        exact ⟨_, by rw [htext, hbody, hbehind, hskip]; simp, .last isBlank_nil hmember hafter⟩
      · next more hskip =>
        obtain ⟨⟨others, left⟩, hothers, heq⟩ := ok_of_map_ok h
        cases heq
        obtain ⟨row, hmore, hrow⟩ := ih.members hothers
        obtain ⟨blank, hmore', hblank⟩ := exists_blank more
        exact ⟨_, by rw [htext, hbody, hbehind, hskip, hmore', hmore]; simp,
          .cons isBlank_nil hmember hafter (hrow.blank_append hblank)⟩
      · cases h

omit ih

theorem sound (d : Dialect) (fuel : Nat) : Sound d fuel := by
  induction fuel with
  | zero => exact ⟨nofun, nofun, nofun⟩
  | succ fuel ih => exact ⟨ih.spells_value, ih.spells_items, ih.spells_members⟩

end Sound

section Whole

variable {d : Dialect} {text : List Char} {j : Json}

theorem readAll_eq_ok_iff : readAll d text = .ok j ↔ SpellsAll d text j := by
  constructor
  · intro h
    unfold readAll at h
    split at h
    · cases h
    · next value rest hvalue =>
      split at h
      · next hskip =>
        cases h
        obtain ⟨before, htext, hbefore⟩ := exists_blank text
        obtain ⟨spelled, hbody, hspelled⟩ := (sound d _).value hvalue
        obtain ⟨after, hrest, hafter⟩ := exists_blank rest
        rw [hskip, List.append_nil] at hrest
        exact ⟨before, spelled, after, by rw [htext, hbody, hrest], hbefore, hspelled, hafter⟩
      · cases h
  · rintro ⟨before, value, after, rfl, hbefore, hspelled, hafter⟩
    have hread := (covers d d.deepest).read (2 * (before ++ (value ++ after)).length + 2) hspelled
      (by simp only [List.length_append]; omega) (numberEnd_of_blank hafter)
    unfold readAll
    rw [(covers d d.deepest).skipSpace_append hbefore hspelled, hread]
    dsimp only
    rw [skipSpace_of_blank hafter]

/-- A text that spells a value has no byte order mark in front. -/
theorem SpellsAll.head?_ne (h : SpellsAll d text j) : text.head? ≠ some '\uFEFF' := by
  obtain ⟨before, value, after, rfl, hbefore, hspelled, -⟩ := h
  obtain ⟨c, cs, rfl, hc⟩ := (covers d d.deepest).start hspelled
  intro hhead
  cases before with
  | nil => exact (isStart_iff.mp hc).2.2 (Option.some.inj hhead)
  | cons b before =>
    have hblank := hbefore b List.mem_cons_self
    rw [Option.some.inj hhead] at hblank
    cases hblank

/-- A text is read as a value exactly when it spells the value. -/
theorem parse_eq_ok_iff : parse d text = .ok j ↔ SpellsAll d text j := by
  unfold parse
  split
  · next hmark => exact ⟨nofun, fun h => absurd hmark h.head?_ne⟩
  · rw [mapError_eq_ok_iff, readAll_eq_ok_iff]

theorem parseStrict?_eq_some_iff : parseStrict? text = some j ↔ SpellsAll .strict text j ∧ j.isWhole = true := by
  rw [← parse_eq_ok_iff]
  unfold parseStrict?
  split
  · next value hparse =>
    rw [hparse, Option.ite_none_right_eq_some, Option.some.injEq, Except.ok.injEq]
    exact ⟨fun ⟨hwhole, heq⟩ => ⟨heq, heq ▸ hwhole⟩, fun ⟨heq, hwhole⟩ => ⟨heq ▸ hwhole, heq⟩⟩
  · next hparse =>
    rw [hparse]
    exact ⟨nofun, fun h => nomatch h.1⟩

end Whole

end TurtleGraphics.Json
