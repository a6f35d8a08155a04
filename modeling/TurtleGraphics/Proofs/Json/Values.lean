import Mathlib.Tactic
import TurtleGraphics.Proofs.Json.Scalars

/-! JSON values. In every layout the text of a value is read back as the value, as long as there is room for its
brackets. -/

namespace TurtleGraphics.Json

/-- A value that can be written and read: its integers are not too long, its texts are whole or broken as reading
leaves them, and its brackets fit in the room. -/
inductive Fits (d : Dialect) : Nat → Json → Prop where
  | null (room : Nat) : Fits d room .null
  | bool (room : Nat) (b : Bool) : Fits d room (.bool b)
  | int (room : Nat) {n : Int} (short : Number.digitCount n ≤ d.digits (decide (n < 0))) : Fits d room (.int n)
  | float (room : Nat) (x : Binary64) : Fits d room (.float x)
  | string (room : Nat) {s : LooseText} (isRead : IsRead s) : Fits d room (.string s)
  | noItems (room : Nat) : Fits d room (.array [])
  | noMembers (room : Nat) : Fits d room (.object [])
  | array {room : Nat} {items : List Json} (fit : ∀ j ∈ items, Fits d room j) : Fits d (room + 1) (.array items)
  | object {room : Nat} {members : List (LooseText × Json)} (names : ∀ m ∈ members, IsRead m.1)
      (fit : ∀ m ∈ members, Fits d room m.2) : Fits d (room + 1) (.object members)

theorem fits_of_whole {d : Dialect} {room : Nat} {members : List (LooseText × Json)}
    (names : (members.all fun m => m.1.isWhole) = true) (fit : ∀ m ∈ members, Fits d room m.2) :
    Fits d (room + 1) (.object members) := by
  refine .object ?_ fit
  intro m hm
  have hwhole := List.all_eq_true.mp names m hm
  cases hname : m.1 with
  | whole s => trivial
  | broken points =>
    rw [hname] at hwhole
    cases hwhole

section Brackets

variable {d : Dialect} {layout : Layout} {room fuel : Nat} {text rest more : List Char}

theorem readValue_noItems (d : Dialect) (fuel room : Nat) (rest : List Char) :
    readValue d (fuel + 1) room ('[' :: ']' :: rest) = .ok (.array [], rest) := by
  rw [readValue, if_neg (by decide), if_pos rfl, skipSpace_cons rfl]
  rfl

theorem readValue_noMembers (d : Dialect) (fuel room : Nat) (rest : List Char) :
    readValue d (fuel + 1) room ('\x7b' :: '\x7d' :: rest) = .ok (.object [], rest) := by
  rw [readValue, if_neg (by decide), if_neg (by decide), if_pos rfl, skipSpace_cons rfl]
  rfl

theorem readValue_items {c : Char} {cs : List Char} (h : skipSpace text = c :: cs) (hc : c ≠ ']') :
    readValue d (fuel + 1) (room + 1) ('[' :: text) =
      (readItems d fuel room (c :: cs)).map fun p => (.array p.1, p.2) := by
  rw [readValue, if_neg (by decide), if_pos rfl, h]
  split
  · next heq =>
    cases heq
    exact absurd rfl hc
  · rfl

theorem readValue_members {c : Char} {cs : List Char} (h : skipSpace text = c :: cs) (hc : c ≠ '\x7d') :
    readValue d (fuel + 1) (room + 1) ('\x7b' :: text) =
      (readMembers d fuel room (c :: cs)).map fun p => (.object p.1, p.2) := by
  rw [readValue, if_neg (by decide), if_neg (by decide), if_pos rfl, h]
  split
  · next heq =>
    cases heq
    exact absurd rfl hc
  · rfl

theorem readItems_last {j : Json} (hread : readValue d fuel room text = .ok (j, rest))
    (h : skipSpace rest = ']' :: more) : readItems d (fuel + 1) room text = .ok ([j], more) := by
  rw [readItems, hread]
  dsimp only
  rw [h]
  rfl

theorem readItems_more {j : Json} (hread : readValue d fuel room text = .ok (j, rest))
    (h : skipSpace rest = ',' :: more) :
    readItems d (fuel + 1) room text = (readItems d fuel room (skipSpace more)).map fun p => (j :: p.1, p.2) := by
  rw [readItems, hread]
  dsimp only
  rw [h]
  rfl

theorem readMembers_last {name : LooseText} {j : Json} {body : List Char} (hname : readName text = .ok (name, body))
    (hread : readValue d fuel room body = .ok (j, rest)) (h : skipSpace rest = '\x7d' :: more) :
    readMembers d (fuel + 1) room text = .ok ([(name, j)], more) := by
  rw [readMembers, hname]
  dsimp only
  rw [hread]
  dsimp only
  rw [h]
  rfl

theorem readMembers_more {name : LooseText} {j : Json} {body : List Char} (hname : readName text = .ok (name, body))
    (hread : readValue d fuel room body = .ok (j, rest)) (h : skipSpace rest = ',' :: more) :
    readMembers d (fuel + 1) room text =
      (readMembers d fuel room (skipSpace more)).map fun p => ((name, j) :: p.1, p.2) := by
  rw [readMembers, hname]
  dsimp only
  rw [hread]
  dsimp only
  rw [h]
  rfl

theorem skipSpace_start {j : Json} (h : ReadsBack d layout room j) {blank : List Char} (hb : IsBlank blank)
    (level : Nat) (rest : List Char) :
    skipSpace (blank ++ (render layout level j ++ rest)) = render layout level j ++ rest := by
  obtain ⟨c, cs, hcons, hc⟩ := h.start level
  rw [hcons, List.cons_append]
  exact skipSpace_blank hb (isStart_iff.mp hc).1 (cs ++ rest)

/-- Items that are read back alone are read back in a row, up to the bracket that closes them. -/
theorem readItems_render (level : Nat) {blank : List Char} (hb : IsBlank blank) (rest : List Char)
    (items : List Json) (j : Json) (h : ∀ k ∈ j :: items, ReadsBack d layout room k) (fuel : Nat)
    (hf : 2 * (render layout level j ++ renderItems layout level items).length + 1 ≤ fuel) :
    readItems d fuel room
        (render layout level j ++ (renderItems layout level items ++ (blank ++ ']' :: rest))) =
      .ok (j :: items, rest) := by
  -- One unit of fuel goes to this call. The comma pays for the call on the items behind it.
  obtain ⟨n, rfl⟩ : ∃ n, fuel = n + 1 := ⟨fuel - 1, by omega⟩
  rw [List.length_append] at hf
  have hj := h j List.mem_cons_self
  induction items generalizing j n with
  | nil =>
    have hend := numberEnd_blank hb (.inr (.inr (.inl rfl)) : IsMark ']') rest
    have hread := hj.read n level (by omega) hend
    exact readItems_last hread (skipSpace_blank hb rfl rest)
  | cons k items ih =>
    obtain ⟨gap, hgap, hblank⟩ := separator_cons layout level
    have htail : renderItems layout level (k :: items) ++ (blank ++ ']' :: rest) =
        ',' :: (gap ++ (render layout level k ++ (renderItems layout level items ++ (blank ++ ']' :: rest)))) := by
      rw [renderItems, hgap]
      simp only [List.append_assoc, List.cons_append]
    have hlength : (renderItems layout level (k :: items)).length =
        1 + gap.length + (render layout level k).length + (renderItems layout level items).length := by
      rw [renderItems, hgap]
      simp only [List.length_append, List.length_cons]
      omega
    have hk := h k (List.mem_cons_of_mem j List.mem_cons_self)
    have hread := hj.read n level (by omega)
      (IsMark.numberEnd (.inr (.inl rfl) : IsMark ',')
        (gap ++ (render layout level k ++ (renderItems layout level items ++ (blank ++ ']' :: rest)))))
    obtain ⟨m, rfl⟩ : ∃ m, n = m + 1 := ⟨n - 1, by omega⟩
    have hrest := ih k (fun x hx => h x (List.mem_cons_of_mem j hx)) m (by omega) hk
    rw [htail, readItems_more hread (skipSpace_cons rfl _), skipSpace_start hk hblank, hrest]
    rfl

theorem readName_quote {name : LooseText} (hread : readString text = .ok (name, rest))
    (h : skipSpace rest = ':' :: more) : readName ('"' :: text) = .ok (name, skipSpace more) := by
  unfold readName
  split
  · next heq =>
    cases heq
    rw [hread]
    dsimp only
    rw [h]
    rfl
  · next hne => exact absurd rfl (hne text)

/-- The name of a member is read back with the colon behind it. -/
theorem readName_render {name : LooseText} (hs : IsRead name) {j : Json} (h : ReadsBack d layout room j)
    (level : Nat) (rest : List Char) :
    readName (renderMember layout level (name, j) ++ rest) = .ok (name, render layout level j ++ rest) := by
  obtain ⟨body, hbody, hread⟩ := readString_renderLoose hs
  have hspace : skipSpace (' ' :: (render layout level j ++ rest)) = render layout level j ++ rest := by
    have hblank : IsBlank [' '] := by
      intro c hc
      rw [List.mem_singleton.mp hc]
      rfl
    exact skipSpace_start h hblank level rest
  have htext : renderMember layout level (name, j) ++ rest =
      '"' :: (body ++ ':' :: ' ' :: (render layout level j ++ rest)) := by
    rw [renderMember, hbody]
    simp only [List.append_assoc, List.cons_append]
  rw [htext, readName_quote (hread _) (skipSpace_cons rfl _), hspace]

theorem exists_quote (s : LooseText) : ∃ body, renderLoose s = '"' :: body := by
  cases s <;> exact ⟨_, rfl⟩

theorem exists_quote_member (layout : Layout) (level : Nat) (m : LooseText × Json) :
    ∃ body, renderMember layout level m = '"' :: body := by
  obtain ⟨name, j⟩ := m
  obtain ⟨body, hbody⟩ := exists_quote name
  exact ⟨_, by rw [renderMember, hbody]; rfl⟩

theorem skipSpace_member (layout : Layout) (level : Nat) (m : LooseText × Json) {blank : List Char} (hb : IsBlank blank)
    (rest : List Char) :
    skipSpace (blank ++ (renderMember layout level m ++ rest)) = renderMember layout level m ++ rest := by
  obtain ⟨body, hbody⟩ := exists_quote_member layout level m
  rw [hbody, List.cons_append]
  exact skipSpace_blank hb rfl (body ++ rest)

theorem length_render_le (layout : Layout) (level : Nat) (name : LooseText) (j : Json) :
    (render layout level j).length + 2 ≤ (renderMember layout level (name, j)).length := by
  rw [renderMember, List.length_append, List.length_cons, List.length_cons]
  omega

/-- Members whose values are read back alone are read back in a row, up to the bracket that closes them. -/
theorem readMembers_render (level : Nat) {blank : List Char} (hb : IsBlank blank) (rest : List Char)
    (members : List (LooseText × Json)) (m : LooseText × Json) (names : ∀ k ∈ m :: members, IsRead k.1)
    (h : ∀ k ∈ m :: members, ReadsBack d layout room k.2) (fuel : Nat)
    (hf : 2 * (renderMember layout level m ++ renderMembers layout level members).length + 1 ≤ fuel) :
    readMembers d fuel room
        (renderMember layout level m ++ (renderMembers layout level members ++ (blank ++ '\x7d' :: rest))) =
      .ok (m :: members, rest) := by
  obtain ⟨n, rfl⟩ : ∃ n, fuel = n + 1 := ⟨fuel - 1, by omega⟩
  rw [List.length_append] at hf
  induction members generalizing m n with
  | nil =>
    obtain ⟨name, j⟩ := m
    have hj : ReadsBack d layout room j := h (name, j) List.mem_cons_self
    have hend := numberEnd_blank hb (.inr (.inr (.inr rfl)) : IsMark '\x7d') rest
    have hlength := length_render_le layout level name j
    have hread := hj.read n level (by omega) hend
    exact readMembers_last (readName_render (names (name, j) List.mem_cons_self) hj level _) hread
      (skipSpace_blank hb rfl rest)
  | cons k members ih =>
    obtain ⟨name, j⟩ := m
    obtain ⟨gap, hgap, hblank⟩ := separator_cons layout level
    have htail : renderMembers layout level (k :: members) ++ (blank ++ '\x7d' :: rest) =
        ',' :: (gap ++ (renderMember layout level k ++
          (renderMembers layout level members ++ (blank ++ '\x7d' :: rest)))) := by
      rw [renderMembers, hgap]
      simp only [List.append_assoc, List.cons_append]
    have hsplit : (renderMembers layout level (k :: members)).length =
        1 + gap.length + (renderMember layout level k).length + (renderMembers layout level members).length := by
      rw [renderMembers, hgap]
      simp only [List.length_append, List.length_cons]
      omega
    have hj : ReadsBack d layout room j := h (name, j) List.mem_cons_self
    have hlength := length_render_le layout level name j
    have hread := hj.read n level (by omega)
      (IsMark.numberEnd (.inr (.inl rfl) : IsMark ',') (gap ++ (renderMember layout level k ++
        (renderMembers layout level members ++ (blank ++ '\x7d' :: rest)))))
    obtain ⟨i, rfl⟩ : ∃ i, n = i + 1 := ⟨n - 1, by omega⟩
    have hrest := ih k (fun x hx => names x (List.mem_cons_of_mem _ hx))
      (fun x hx => h x (List.mem_cons_of_mem _ hx)) i (by omega)
    have hname := readName_render (names (name, j) List.mem_cons_self) hj level
      (',' :: (gap ++ (renderMember layout level k ++
        (renderMembers layout level members ++ (blank ++ '\x7d' :: rest)))))
    rw [htail, readMembers_more hname hread (skipSpace_cons rfl _), skipSpace_member layout level k hblank, hrest]
    rfl

theorem readsBack_array {items : List Json} (h : ∀ j ∈ items, ReadsBack d layout room j) :
    ReadsBack d layout (room + 1) (.array items) := by
  cases items with
  | nil =>
    refine readsBack_single (fun level => by rw [render]) rfl ?_
    intro fuel rest
    exact readValue_noItems d fuel (room + 1) rest
  | cons j items =>
    have hj := h j List.mem_cons_self
    constructor
    · intro level
      exact ⟨'[', _, by rw [render]; rfl, rfl⟩
    · intro fuel level rest hf hr
      have htext : render layout level (.array (j :: items)) ++ rest =
          '[' :: (layout.lineBreak (level + 1) ++ (render layout (level + 1) j ++
            (renderItems layout (level + 1) items ++ (layout.lineBreak level ++ ']' :: rest)))) := by
        rw [render]
        simp only [List.append_assoc, List.cons_append, List.nil_append]
      have hlength : (render layout (level + 1) j).length + (renderItems layout (level + 1) items).length + 2 ≤
          (render layout level (.array (j :: items))).length := by
        rw [render]
        simp only [List.length_append, List.length_cons]
        omega
      obtain ⟨n, rfl⟩ : ∃ n, fuel = n + 1 := ⟨fuel - 1, by omega⟩
      have hread := readItems_render (level + 1) (isBlank_lineBreak layout level) rest items j h n
        (by rw [List.length_append]; omega)
      obtain ⟨c, cs, hcons, hc⟩ := hj.start (level + 1)
      have hskip := skipSpace_start hj (isBlank_lineBreak layout (level + 1)) (level + 1)
        (renderItems layout (level + 1) items ++ (layout.lineBreak level ++ ']' :: rest))
      rw [hcons, List.cons_append] at hread hskip
      rw [htext, hcons, List.cons_append, readValue_items hskip (isStart_iff.mp hc).2.1, hread]
      rfl

theorem readsBack_object {members : List (LooseText × Json)} (names : ∀ m ∈ members, IsRead m.1)
    (h : ∀ m ∈ members, ReadsBack d layout room m.2) : ReadsBack d layout (room + 1) (.object members) := by
  cases members with
  | nil =>
    refine readsBack_single (fun level => by rw [render]) rfl ?_
    intro fuel rest
    exact readValue_noMembers d fuel (room + 1) rest
  | cons m members =>
    constructor
    · intro level
      exact ⟨'\x7b', _, by rw [render]; rfl, rfl⟩
    · intro fuel level rest hf hr
      have htext : render layout level (.object (m :: members)) ++ rest =
          '\x7b' :: (layout.lineBreak (level + 1) ++ (renderMember layout (level + 1) m ++
            (renderMembers layout (level + 1) members ++ (layout.lineBreak level ++ '\x7d' :: rest)))) := by
        rw [render]
        simp only [List.append_assoc, List.cons_append, List.nil_append]
      have hlength : (renderMember layout (level + 1) m).length +
          (renderMembers layout (level + 1) members).length + 2 ≤
            (render layout level (.object (m :: members))).length := by
        rw [render]
        simp only [List.length_append, List.length_cons]
        omega
      obtain ⟨n, rfl⟩ : ∃ n, fuel = n + 1 := ⟨fuel - 1, by omega⟩
      have hread := readMembers_render (level + 1) (isBlank_lineBreak layout level) rest members m names h n
        (by rw [List.length_append]; omega)
      obtain ⟨body, hbody⟩ := exists_quote_member layout (level + 1) m
      have hskip := skipSpace_member layout (level + 1) m (isBlank_lineBreak layout (level + 1))
        (renderMembers layout (level + 1) members ++ (layout.lineBreak level ++ '\x7d' :: rest))
      rw [hbody, List.cons_append] at hread hskip
      rw [htext, hbody, List.cons_append, readValue_members hskip (by decide), hread]
      rfl

/-- Every value that fits is read back from its text. -/
theorem readsBack_of_fits {j : Json} (h : Fits d room j) : ReadsBack d layout room j := by
  induction h with
  | null room =>
    refine readsBack_word "null".toList ?_ fun level => by rw [render]
    simp [words]
  | bool room b =>
    refine readsBack_word (if b then "true" else "false").toList ?_ fun level => by rw [render]
    cases b <;> simp [words]
  | int room short =>
    obtain ⟨p, hp, htext, hvalue⟩ := exists_parts_int short
    exact readsBack_number hp (fun level => by rw [render, htext]) hvalue
  | float room x => exact readsBack_float x
  | string room isRead => exact readsBack_string isRead
  | noItems room =>
    refine readsBack_single (fun level => by rw [render]) rfl ?_
    exact fun fuel rest => readValue_noItems d fuel room rest
  | noMembers room =>
    refine readsBack_single (fun level => by rw [render]) rfl ?_
    exact fun fuel rest => readValue_noMembers d fuel room rest
  | array fit ih => exact readsBack_array ih
  | object names fit ih => exact readsBack_object names ih

end Brackets

/-- The text of a value that fits is read as the value. -/
theorem readAll_render (d : Dialect) (layout : Layout) {j : Json} (h : Fits d d.deepest j) :
    readAll d (render layout 0 j) = .ok j := by
  have hback : ReadsBack d layout d.deepest j := readsBack_of_fits h
  have hblank : IsBlank [] := nofun
  have hend : NumberEnd [] := nofun
  have hskip := skipSpace_start hback hblank 0 []
  have hread := hback.read (2 * (render layout 0 j).length + 2) 0 (by omega) hend
  rw [List.nil_append, List.append_nil] at hskip
  rw [List.append_nil] at hread
  unfold readAll
  rw [hskip, hread]
  rfl

theorem parse_render (d : Dialect) (layout : Layout) {j : Json} (h : Fits d d.deepest j) :
    parse d (render layout 0 j) = .ok j := by
  have hback : ReadsBack d layout d.deepest j := readsBack_of_fits h
  obtain ⟨c, cs, hcons, hc⟩ := hback.start 0
  have hmark : ¬(render layout 0 j).head? = some '\uFEFF' := by
    rw [hcons, List.head?_cons, Option.some.injEq]
    exact (isStart_iff.mp hc).2.2
  unfold parse
  rw [if_neg hmark, readAll_render d layout h]
  rfl

end TurtleGraphics.Json
