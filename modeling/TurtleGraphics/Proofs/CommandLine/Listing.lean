import Mathlib.Tactic
import TurtleGraphics.Proofs.Command.Unknown
import TurtleGraphics.Proofs.CommandLine.Answers
import TurtleGraphics.Proofs.Decimal.Characters
import TurtleGraphics.Standard

/-! Listing a script. The lines that are marked as doing nothing are those of the commands that a run can do without. -/

namespace TurtleGraphics

namespace Report

/-- The lines that a report says, as they are before control sequences are taken out of them. -/
def said (r : Report) : List String := r.events.filterMap Event.line?

end Report

namespace Program

def mark : String := "  (unknown, no-op)"

def isMarked (line : String) : Bool := mark.toList.isSuffixOf line.toList

theorem not_mem_column (n : Nat) : '(' ∉ column n := by
  unfold column
  rw [List.mem_append, not_or]
  refine ⟨fun hblank => ?_, (IsNumeric.toDigits n).not_mem rfl⟩
  cases List.eq_of_mem_replicate hblank

theorem not_mem_verb (v : Verb) : '(' ∉ v.text.toList := by
  cases v <;> decide

/-- The line of a known command is made of numbers, blanks and the text of a verb. -/
theorem not_mem_listingLine {line : ScriptLine} {v : Verb} (h : line.name = v.text) (number : Nat) :
    '(' ∉ (listingLine number line).toList := by
  have hamount : '(' ∉ (line.value.elim "" fun x => " " ++ String.ofList x.briefText).toList := by
    cases line.value with
    | none => exact nofun
    | some x =>
      have habsent := (IsNumeric.briefText x).not_mem (show isNumeric '(' = false by rfl)
      simp only [Option.elim_some, String.toList_append, String.toList_ofList, List.mem_append, habsent, or_false]
      decide
  have hknown : line.toCommand.isKnown = true := by
    unfold ScriptLine.toCommand Command.isKnown Command.verb?
    rw [h, Datum.text?, Option.bind_some, Verb.ofText?_text, Option.isSome_some]
  unfold listingLine
  simp only [hknown, ↓reduceIte, String.toList_append, String.toList_ofList, List.mem_append, h, not_or]
  exact ⟨⟨⟨⟨not_mem_column number, by decide⟩, not_mem_verb v⟩, hamount⟩, by decide⟩

theorem isMarked_listingLine (number : Nat) (line : ScriptLine) :
    isMarked (listingLine number line) = !line.toCommand.isKnown := by
  cases hknown : line.toCommand.isKnown with
  | true =>
    obtain ⟨v, hv⟩ := Option.isSome_iff_exists.mp hknown
    have hname : line.name = v.text := Verb.ofText?_eq_some_iff.mp hv
    have habsent := not_mem_listingLine hname number
    refine Bool.eq_false_iff.mpr fun hmarked => habsent ?_
    exact (List.isSuffixOf_iff_suffix.mp hmarked).subset (by decide)
  | false =>
    refine List.isSuffixOf_iff_suffix.mpr ?_
    unfold listingLine
    simp only [hknown, Bool.false_eq_true, ↓reduceIte, String.toList_append]
    exact List.suffix_append _ _

theorem filterMap_listing (lines : List ScriptLine) :
    (listing lines).filterMap Event.line? =
      (lines.zipIdx 1).map (fun l => listingLine l.2 l.1) ++ [s!"{lines.length} commands"] := by
  have hsay : (Event.line? ∘ fun l : ScriptLine × Nat => Event.say (listingLine l.2 l.1)) =
      some ∘ fun l => listingLine l.2 l.1 := rfl
  unfold listing
  rw [List.filterMap_append, List.filterMap_map, hsay, List.filterMap_eq_map]
  rfl

theorem map_isMarked (lines : List ScriptLine) (first : Nat) :
    ((lines.zipIdx first).map fun l => listingLine l.2 l.1).map isMarked =
      (lines.map ScriptLine.toCommand).map fun c => !c.isKnown := by
  induction lines generalizing first with
  | nil => rfl
  | cons line lines ih =>
    simp only [List.zipIdx_cons, List.map_cons, isMarked_listingLine, ih]

theorem not_isMarked_count (n : Nat) : isMarked s!"{n} commands" = false := by
  have hdigits : (toString n).toList = Nat.toDigits 10 n := String.toList_ofList
  have habsent : '(' ∉ (toString n ++ " commands").toList := by
    rw [String.toList_append, hdigits, List.mem_append, not_or]
    exact ⟨(IsNumeric.toDigits n).not_mem rfl, by decide⟩
  refine Bool.eq_false_iff.mpr fun hmarked => habsent ?_
  exact (List.isSuffixOf_iff_suffix.mp hmarked).subset (by decide)

/-- The arguments ask to list a script that is there. -/
structure AsksList (tree : FileTree) (arguments : List String) (script : NamedFile) : Prop where
  request : ∃ verbose, Request.read? arguments = some ⟨verbose, .check [script.name]⟩
  script : script.IsThere tree

section Lists

variable [Platform] [Validation] [Imaging] {tree : FileTree} {arguments : List String} {script : NamedFile}
  {commands : List Command}

theorem respond_of_asksList (h : AsksList tree arguments script) (hload : Script.load script.bytes = .ok commands) :
    ∃ lines, lines.map ScriptLine.toCommand = commands ∧
      (respond tree arguments).said = (listing lines).filterMap Event.line? ∧
      (respond tree arguments).ending = .success := by
  obtain ⟨verbose, hrequest⟩ := h.request
  obtain ⟨lines, notice, hlines, hloaded⟩ := loadScript_of_ok script.path hload
  have hcheck : checkNamed tree [script.name] =
      finish (loadScript script.path script.bytes) (ending "") listing :=
    withFile_of_isThere h.script fun bytes => finish (loadScript script.path bytes) (ending "") listing
  -- Notices may be left out, but they say nothing.
  have hshown : ∀ e : Event, (if e.isShown verbose then e.line? else none) = e.line? := by
    intro e
    cases e <;> first | rfl | exact ite_self none
  refine ⟨lines, hlines, ?_⟩
  unfold respond Report.said
  rw [hrequest]
  dsimp only [perform]
  rw [hcheck, hloaded]
  refine ⟨?_, rfl⟩
  rw [List.filterMap_filter]
  simp only [hshown]
  rfl

/-- A name is unknown exactly when it takes the default arm. Commands of such names can be left out, whatever their
values are: the run is the same, and if it stops, then at the same command. In the listing of a script they are the
marked ones. -/
theorem unknown_erasable :
    (∀ c : Command, (Command.isListed c.name = false ↔ Command.arm? c.name = none) ∧
      c.isKnown = Command.isListed c.name ∧
      c.transition = Command.armTransition c.amount (Command.arm? c.name)) ∧
    (∀ (commands : List Command) (t : Turtle) (s : Surface),
      Command.run (Command.erased commands) t s = Command.run commands t s) ∧
    (∀ (commands : List Command) (t : Turtle) (s : Surface) (fault : Fault), s.onlyRecorders = true →
      (Command.run commands t s).result = .error fault →
      ∃ k c, Command.StopsAt commands t s fault k ∧ commands[k]? = some c ∧ c.isKnown = true ∧
        Command.StopsAt (Command.erased commands) t s fault (Command.placeErased commands k) ∧
        (Command.erased commands)[Command.placeErased commands k]? = some c) ∧
    ∀ (tree : FileTree) (arguments : List String) (script : NamedFile) (commands : List Command),
      AsksList tree arguments script → Script.load script.bytes = .ok commands →
      (respond tree arguments).ending = .success ∧
      ∃ listed last, (respond tree arguments).said = listed ++ [last] ∧
        listed.map isMarked = (commands.map fun c => !c.isKnown) ∧ isMarked last = false := by
  refine ⟨?_, Command.run_erased, ?_, ?_⟩
  · intro c
    refine ⟨?_, (Command.isListed_eq c).symm, Command.transition_eq c⟩
    rw [Command.isListed_eq, Command.arm?_eq, Command.isKnown, Option.isSome_eq_false_iff, Option.isNone_iff_eq_none]
  · intro commands t s fault hs hfault
    obtain ⟨k, hstops⟩ := Command.exists_stopsAt hs hfault
    obtain ⟨c, hc, hknown, hplace, herased⟩ := hstops.erased
    exact ⟨k, c, hstops, hc, hknown, herased, hplace⟩
  · intro tree arguments script commands hasks hload
    obtain ⟨lines, rfl, hsaid, hending⟩ := respond_of_asksList hasks hload
    rw [filterMap_listing] at hsaid
    exact ⟨hending, _, _, hsaid, map_isMarked lines 1, not_isMarked_count _⟩

end Lists

/-- Two turns past the range of headings, between commands that do nothing. -/
def skippedLines : List ScriptLine :=
  [⟨"JUMP", none⟩, ⟨"TURN", some (.ofInt 300)⟩, ⟨"  (unknown, no-op)", some (.ofInt 5)⟩, ⟨"TURN", some (.ofInt 300)⟩]

def skippedScript : NamedFile :=
  ⟨"s.json", Text.Utf8.encode ("[\x7b\"name\": \"JUMP\"\x7d, \x7b\"name\": \"TURN\", \"value\": 300\x7d, " ++
    "\x7b\"name\": \"  (unknown, no-op)\", \"value\": 5\x7d, \x7b\"name\": \"TURN\", \"value\": 300\x7d]").toList⟩

def skippedTree : FileTree := ⟨[(skippedScript.path, skippedScript.bytes)], []⟩

open Standard

theorem skipped_erasable :
    AsksList skippedTree ["check", "s.json"] skippedScript ∧
    Script.load skippedScript.bytes = .ok (skippedLines.map ScriptLine.toCommand) ∧
    (∃ fault k c, Command.StopsAt (skippedLines.map ScriptLine.toCommand) StartSettings.standard.placed
        (.recorder .empty) fault k ∧ (skippedLines.map ScriptLine.toCommand)[k]? = some c ∧ c.isKnown = true) ∧
    ∃ listed last, (respond skippedTree ["check", "s.json"]).said = listed ++ [last] ∧
      listed.map isMarked = [true, false, true, false] := by
  have hasks : AsksList skippedTree ["check", "s.json"] skippedScript :=
    ⟨⟨false, by decide +kernel⟩, ⟨by decide +kernel, by decide +kernel⟩⟩
  have hload : Script.load skippedScript.bytes = .ok (skippedLines.map ScriptLine.toCommand) := by
    have hparse : Script.parse skippedScript.bytes = .ok skippedLines := by
      apply ok_of_toOption
      decide +kernel
    exact Script.load_eq_ok_iff.mpr ⟨skippedLines, hparse, rfl⟩
  have hnone : (Command.run (skippedLines.map ScriptLine.toCommand) StartSettings.standard.placed
      (.recorder .empty)).result.toOption = none := by
    decide +kernel
  obtain ⟨fault, hfault⟩ := error_of_toOption hnone
  obtain ⟨-, -, hstops, hlist⟩ := unknown_erasable
  obtain ⟨k, c, hstop, hc, hknown, -⟩ := hstops _ _ _ _ rfl hfault
  obtain ⟨-, listed, last, hsaid, hmarked, -⟩ := hlist _ _ _ _ hasks hload
  exact ⟨hasks, hload, ⟨fault, k, c, hstop, hc, hknown⟩, listed, last, hsaid, hmarked.trans (by decide +kernel)⟩

end Program

end TurtleGraphics
