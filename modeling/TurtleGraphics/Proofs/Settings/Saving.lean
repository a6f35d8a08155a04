import Mathlib.Tactic
import TurtleGraphics.Proofs.Json.Depth
import TurtleGraphics.Proofs.Settings.Reading
import TurtleGraphics.Settings.Sheet
import TurtleGraphics.Standard

/-! Saving settings over a file. A sheet with a JSON form is saved whole. Without one nothing is left of the file but a
text that was torn while a bracket was open, or no text at all, and neither is JSON. -/

namespace TurtleGraphics

namespace Written

variable {w next : Written} {j k : Nat}

/-- What was written leaves so many more brackets open, or was torn with some open or none. -/
inductive Nests (count : Nat) : Written → Prop where
  | done {text : List Char} : Json.Opens count text → Nests count (done text)
  | torn {text : List Char} {fault : Fault} {more : Nat} : Json.Opens more text → Nests count ⟨text, some fault⟩

theorem nests_stopped (fault : Fault) : Nests k (stopped fault) := .torn .nil

theorem Nests.andThen (h : w.Nests j) (h' : next.Nests k) : (w.andThen next).Nests (j + k) := by
  cases h with
  | torn hopens => exact .torn hopens
  | done hopens =>
    cases h' with
    | torn hmore => exact .torn (hopens.append hmore)
    | done hmore => exact .done (hopens.append hmore)

theorem Nests.close (h : w.Nests (k + 1)) {blank : List Char} (hblank : Json.Opens 0 blank) {c : Char}
    (hc : c = ']' ∨ c = '\x7d') : (w.andText (blank ++ [c])).Nests k := by
  cases h with
  | torn hopens => exact .torn hopens
  | done hopens =>
    refine .done ?_
    change Json.Opens k (_ ++ (blank ++ [c]))
    rw [← List.append_assoc]
    exact (hopens.append_closed hblank).close hc

theorem done_nil_andThen (w : Written) : (done []).andThen w = w := rfl

theorem done_andThen_andText (lead text : List Char) (w : Written) :
    (done lead).andThen (w.andText text) = ((done lead).andThen w).andText text := by
  obtain ⟨written, fault⟩ := w
  cases fault with
  | none => simp [andText, done]
  | some fault => simp [andText]

end Written

namespace Datum

open Json (Opens)

variable {lead : List Char} {j : Nat}

theorem nests_streamNumber (h : Opens j lead) (x : Number) : (streamNumber lead x).Nests j := by
  unfold streamNumber
  split
  · refine .done (h.append_closed ?_)
    cases x with
    | int n => exact .numeric (.int n)
    | float x => exact .renderNumber x
  · exact Written.nests_stopped _

theorem nests_streamName (h : Opens j lead) (key : Datum) : (streamName lead key).Nests j := by
  have hcolon : Opens 0 [':', ' '] := .of_all (by decide)
  unfold streamName
  split
  · exact .done ((h.append_closed (.renderLoose _)).append_closed hcolon)
  · exact Written.nests_stopped _

variable (layout : Json.Layout)

theorem opens_lineBreak (level : Nat) {c : Char} (hc : c = '[' ∨ c = '\x7b') : Opens 1 (c :: layout.lineBreak level) :=
  (Opens.bracket hc).append (.lineBreak layout level)

mutual

theorem nests_stream (level : Nat) {lead : List Char} {j : Nat} (h : Opens j lead) :
    ∀ d : Datum, (d.stream layout level lead).Nests j
  | .null => .done (h.append_closed (.of_all (by decide)))
  | .bool b => by
    refine .done (h.append_closed ?_)
    cases b with
    | true => exact .of_all (by decide)
    | false => exact .of_all (by decide)
  | .number x => nests_streamNumber h x
  | .text s => .done (h.append_closed (.renderText _))
  | .brokenText points => .done (h.append_closed (.renderLoose (.broken points)))
  | .pen p => .done (h.append_closed (.renderText _))
  | .verb v => .done (h.append_closed (.renderText _))
  | .list items => nests_streamArray level h items
  | .tuple items => nests_streamArray level h items
  | .dict entries => nests_streamObject level h entries
  | .bytes _ => .torn h
  | .point _ _ => .torn h
termination_by structural d => d

theorem nests_streamArray (level : Nat) {lead : List Char} {j : Nat} (h : Opens j lead) :
    ∀ items : List Datum, (streamArray layout level lead items).Nests j
  | [] => .done (h.append_closed (.enclosed .nil (.inl rfl) (.inl rfl)))
  | d :: rest => by
    have hfirst := nests_stream (level + 1) (opens_lineBreak layout (level + 1) (.inl rfl)) d
    have hrest := nests_streamItems (level + 1) rest
    exact Written.Nests.andThen (.done h) ((hfirst.andThen hrest).close (.lineBreak layout level) (.inl rfl))
termination_by structural items => items

theorem nests_streamItems (level : Nat) : ∀ items : List Datum, (streamItems layout level items).Nests 0
  | [] => .done .nil
  | d :: rest => (nests_stream level (.separator layout level) d).andThen (nests_streamItems level rest)
termination_by structural items => items

theorem nests_streamObject (level : Nat) {lead : List Char} {j : Nat} (h : Opens j lead) :
    ∀ entries : List (Datum × Datum), (streamObject layout level lead entries).Nests j
  | [] => .done (h.append_closed (.enclosed .nil (.inr rfl) (.inr rfl)))
  | e :: rest => by
    have hlead := h.append (opens_lineBreak layout (level + 1) (.inr rfl))
    have hmembers := (nests_streamEntry (level + 1) .nil e).andThen (nests_streamEntries (level + 1) rest)
    rw [streamObject, Written.done_andThen_andText]
    exact (Written.Nests.andThen (.done hlead) hmembers).close (.lineBreak layout level) (.inr rfl)
termination_by structural entries => entries

theorem nests_streamEntries (level : Nat) :
    ∀ entries : List (Datum × Datum), (streamEntries layout level entries).Nests 0
  | [] => .done .nil
  | e :: rest => (nests_streamEntry level (.separator layout level) e).andThen (nests_streamEntries level rest)
termination_by structural entries => entries

theorem nests_streamEntry (level : Nat) {lead : List Char} {j : Nat} (h : Opens j lead) :
    ∀ e : Datum × Datum, (streamEntry layout level lead e).Nests j
  | (k, v) => (nests_streamName h k).andThen (nests_stream level .nil v)
termination_by structural e => e

end

/-- An object that is torn has at least its own bracket open. -/
theorem opens_of_streamObject (level : Nat) (h : Opens j lead) {entries : List (Datum × Datum)} {fault : Fault}
    (hfault : (streamObject layout level lead entries).fault = some fault) :
    ∃ more, Opens (more + 1) (streamObject layout level lead entries).text := by
  cases entries with
  | nil => cases hfault
  | cons e rest =>
    have hlead := h.append (opens_lineBreak layout (level + 1) (.inr rfl))
    have hmembers := (nests_streamEntry layout (level + 1) .nil e).andThen (nests_streamEntries layout (level + 1) rest)
    rw [streamObject] at hfault ⊢
    generalize (streamEntry layout (level + 1) [] e).andThen (streamEntries layout (level + 1) rest) = members at *
    cases hmembers with
    | done _ => cases hfault
    | @torn text _ more hopens =>
      refine ⟨j + more, ?_⟩
      have hall := hlead.append hopens
      rwa [Nat.add_right_comm] at hall

end Datum

namespace Sheet

variable {sheet : Sheet} {torn : List Char}

/-- A text that leaves a bracket open, or no text, is no settings file. -/
theorem reload_of_not_parsed [Platform] [Validation]
    (h : ∀ j, Json.parse (.lenient Platform.jsonDepth) (Text.unifyLineEnds torn) ≠ .ok j) :
    ∃ defect, reload (String.ofList torn) = .error (.notJson defect) := by
  unfold reload
  rw [String.toList_ofList, Settings.load_encode]
  cases hparse : Json.parse (.lenient Platform.jsonDepth) (Text.unifyLineEnds torn) with
  | ok j => exact absurd hparse (h j)
  | error defect => exact ⟨defect, rfl⟩

theorem not_parsed_of_opens [Platform] {more : Nat} (h : Json.Opens (more + 1) torn) (j : Json) :
    Json.parse (.lenient Platform.jsonDepth) (Text.unifyLineEnds torn) ≠ .ok j := by
  have hunified : Json.Opens (more + 1) (Text.unifyLineEnds torn) := by
    intro depth
    rw [Json.Nesting.scan_unifyLineEnds]
    exact h depth
  exact hunified.not_parsed

/-- Opening a file leaves nothing of its text. -/
theorem saveOver_eq (old : String) :
    sheet.saveOver old =
      match sheet.plain with
      | .ok plain => plain.toDatum.stream (.ofIndent fileIndent) 0 []
      | .error fault => .stopped fault := by
  unfold saveOver opened
  rw [List.take_zero]
  exact Written.done_nil_andThen _

theorem saveOver_of_write_error [Platform] [Validation] {fault : Fault} (h : sheet.write = .error fault) :
    ∃ torn, (∀ old, sheet.saveOver old = ⟨torn, some fault⟩) ∧
      ∃ defect, reload (String.ofList torn) = .error (.notJson defect) := by
  unfold write at h
  simp only [saveOver_eq]
  cases hplain : sheet.plain with
  | error other =>
    rw [hplain] at h
    cases h
    exact ⟨[], fun _ => rfl, reload_of_not_parsed nofun⟩
  | ok plain =>
    rw [hplain] at h
    have hjson : plain.toDatum.toJson = .error fault := error_of_map_error h
    have hfault := Datum.stream_error (.ofIndent fileIndent) 0 [] hjson
    obtain ⟨more, hopens⟩ := Datum.opens_of_streamObject (.ofIndent fileIndent) 0 .nil hfault
    refine ⟨(plain.toDatum.stream (.ofIndent fileIndent) 0 []).text, fun _ => ?_,
      reload_of_not_parsed (not_parsed_of_opens hopens)⟩
    exact congrArg (Written.mk _) hfault

/-- A sheet that can be written replaces a file by its whole text. One that cannot loses what the file held, whatever it
was, and leaves a text that is no JSON. -/
theorem saveOver_cases [Platform] [Validation] (sheet : Sheet) :
    (∃ text, sheet.write = .ok text ∧ ∀ old, sheet.saveOver old = .done text.toList) ∨
      ∃ fault torn, sheet.write = .error fault ∧ (∀ old, sheet.saveOver old = ⟨torn, some fault⟩) ∧
        ∃ defect, reload (String.ofList torn) = .error (.notJson defect) := by
  cases hwrite : sheet.write with
  | ok text => exact .inl ⟨text, rfl, saveOver_of_write hwrite⟩
  | error fault =>
    obtain ⟨torn, hsave, hreload⟩ := saveOver_of_write_error hwrite
    exact .inr ⟨fault, torn, rfl, hsave, hreload⟩

/-- Settings with an ink that has no JSON form. -/
def inkless : Sheet :=
  [("canvas", .fields ⟨"CanvasConfig", [("width", .int 800), ("height", .int 600), ("background", .text "white"),
      ("ink", .bytes [0]), ("line_width", .int 1)]⟩),
    ("start", .fields ⟨"StartConfig", Settings.startFields .standard⟩),
    ("plotter", .fields ⟨"PlotterConfig", Settings.plotterFields .standard⟩)]

theorem set_inkless : Sheet.set "canvas" "ink" (.bytes [0]) Settings.standard.sheet = .ok inkless := rfl

theorem write_inkless : inkless.write = .error (.notWritable (.bytes [0])) := rfl

open Standard

/-- A save that fails does not leave a file as it was. -/
theorem inkless_loses_file :
    ¬∀ (bytes : List UInt8) (s : Settings) (part field : String) (value : Datum) (sheet : Sheet) (old : String),
      Settings.load bytes = .ok s → Sheet.set part field value s.sheet = .ok sheet →
        ∀ fault, (sheet.saveOver old).fault = some fault → (sheet.saveOver old).text = old.toList := by
  intro hall
  have hload : Settings.load (Text.Utf8.encode "\x7b\x7d".toList) = .ok .standard := rfl
  obtain ⟨torn, hsave, defect, hreload⟩ := saveOver_of_write_error write_inkless
  have hkept := hall _ _ _ _ _ _ "\x7b\x7d" hload set_inkless
  rw [hsave] at hkept
  -- The old file could be read, so what is left of it cannot be the old file.
  have htorn : torn = "\x7b\x7d".toList := hkept _ rfl
  rw [htorn, String.ofList_toList] at hreload
  cases hload.symm.trans hreload

end Sheet

end TurtleGraphics
