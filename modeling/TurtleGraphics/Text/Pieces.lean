/-! A text cut at every place of one character. -/

namespace TurtleGraphics.Text

def extendFirst (c : Char) : List (List Char) → List (List Char)
  | [] => [[c]]
  | piece :: more => (c :: piece) :: more

/-- The pieces of a text around a separator, empty ones included. -/
def pieces (separator : Char) : List Char → List (List Char)
  | [] => [[]]
  | c :: rest => if c = separator then [] :: pieces separator rest else extendFirst c (pieces separator rest)

theorem extendFirst_eq_modifyHead (c : Char) {more : List (List Char)} (h : more ≠ []) :
    extendFirst c more = more.modifyHead (List.cons c) := by
  cases more with
  | nil => exact absurd rfl h
  | cons piece more => rfl

theorem pieces_eq_splitOn (separator : Char) (text : List Char) : pieces separator text = text.splitOn separator := by
  induction text with
  | nil => rw [List.splitOn_nil, pieces]
  | cons c rest ih =>
    rw [pieces, List.splitOn_cons_eq_if_modifyHead, ih, extendFirst_eq_modifyHead c (List.splitOn_ne_nil _ _)]
    simp only [beq_iff_eq]

theorem pieces_ne_nil (separator : Char) (text : List Char) : pieces separator text ≠ [] := by
  rw [pieces_eq_splitOn]
  exact List.splitOn_ne_nil separator text

variable {separator : Char}

theorem pieces_of_not_mem {text : List Char} (h : separator ∉ text) : pieces separator text = [text] := by
  rw [pieces_eq_splitOn, List.splitOn_eq_singleton h]

/-- At a separator a text is cut into the pieces of both sides. -/
theorem pieces_append (text rest : List Char) :
    pieces separator (text ++ separator :: rest) = pieces separator text ++ pieces separator rest := by
  simp only [pieces_eq_splitOn, List.splitOn_append_cons_self]

/-- A text without the separator is the first piece of what it starts. -/
theorem pieces_append_cons {text : List Char} (h : separator ∉ text) (rest : List Char) :
    pieces separator (text ++ separator :: rest) = text :: pieces separator rest := by
  rw [pieces_append, pieces_of_not_mem h]
  rfl

/-- Joining undoes cutting. -/
theorem intercalate_pieces (separator : Char) (text : List Char) :
    List.intercalate [separator] (pieces separator text) = text := by
  rw [pieces_eq_splitOn]
  exact List.intercalate_splitOn separator

/-- Texts that were joined are cut into the pieces of each. -/
theorem pieces_intercalate_flatMap {texts : List (List Char)} (h : texts ≠ []) :
    pieces separator (List.intercalate [separator] texts) = texts.flatMap (pieces separator) := by
  induction texts with
  | nil => exact absurd rfl h
  | cons first more ih =>
    rw [List.flatMap_cons]
    by_cases hmore : more = []
    · rw [hmore, List.intercalate_singleton, List.flatMap_nil, List.append_nil]
    · rw [List.intercalate_cons_of_ne_nil hmore, List.append_assoc, List.singleton_append, pieces_append, ih hmore]

end TurtleGraphics.Text
