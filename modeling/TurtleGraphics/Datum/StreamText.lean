import TurtleGraphics.Datum.Stream

/-! A datum with a JSON form is written out as exactly the text of that form, and one without a form stops the
writing with the fault that refuses it. -/

namespace TurtleGraphics

namespace Written

@[simp] theorem done_andThen (text : List Char) (w : Written) :
    (done text).andThen w = ⟨text ++ w.text, w.fault⟩ := rfl

@[simp] theorem stopped_andThen (text : List Char) (fault : Fault) (w : Written) :
    (Written.mk text (some fault)).andThen w = ⟨text, some fault⟩ := rfl

@[simp] theorem none_andThen (text : List Char) (w : Written) :
    (Written.mk text none).andThen w = ⟨text ++ w.text, w.fault⟩ := rfl

end Written

namespace Datum

theorem streamNumber_ok (lead : List Char) {x : Number} {j : Json} (h : numberJson x = .ok j) (layout : Json.Layout)
    (level : Nat) : streamNumber lead x = .done (lead ++ j.render layout level) := by
  cases x with
  | int n =>
    simp only [numberJson] at h
    split at h
    · next hw => cases h; simp [streamNumber, numberJson, hw, Json.render]
    · cases h
  | float x => cases h; rfl

theorem streamName_ok (lead : List Char) {key : Datum} {name : LooseText} (h : nameJson key = .ok name) :
    streamName lead key = .done (lead ++ Json.renderLoose name ++ [':', ' ']) := by
  simp [streamName, h]

mutual

theorem stream_ok (layout : Json.Layout) (level : Nat) (lead : List Char) :
    ∀ {d : Datum} {j : Json}, d.toJson = .ok j → d.stream layout level lead = .done (lead ++ j.render layout level)
  | .null, _, h => by cases h; rfl
  | .bool b, _, h => by cases h; rfl
  | .number x, _, h => streamNumber_ok lead h layout level
  | .text s, _, h => by cases h; rfl
  | .brokenText _, _, h => by cases h; rfl
  | .pen p, _, h => by cases h; rfl
  | .verb v, _, h => by cases h; rfl
  | .bytes _, _, h => by cases h
  | .point _ _, _, h => by cases h
  | .list items, _, h => by
    simp only [toJson] at h
    cases ha : allToJson items with
    | error e => rw [ha] at h; cases h
    | ok js => rw [ha] at h; cases h; exact streamArray_ok layout level lead ha
  | .tuple items, _, h => by
    simp only [toJson] at h
    cases ha : allToJson items with
    | error e => rw [ha] at h; cases h
    | ok js => rw [ha] at h; cases h; exact streamArray_ok layout level lead ha
  | .dict entries, _, h => by
    simp only [toJson] at h
    cases ha : entriesToJson entries with
    | error e => rw [ha] at h; cases h
    | ok ms => rw [ha] at h; cases h; exact streamObject_ok layout level lead ha
termination_by structural d => d

theorem streamArray_ok (layout : Json.Layout) (level : Nat) (lead : List Char) :
    ∀ {items : List Datum} {js : List Json}, allToJson items = .ok js →
      streamArray layout level lead items = .done (lead ++ (Json.array js).render layout level)
  | [], _, h => by cases h; rfl
  | d :: rest, js, h => by
    obtain ⟨j, hj, h⟩ := ok_of_bind_ok h
    obtain ⟨js, hjs, h⟩ := ok_of_bind_ok h
    cases h
    rw [streamArray, stream_ok layout (level + 1) _ hj, streamItems_ok layout (level + 1) hjs]
    simp [Written.done, Written.andText, Json.render]
termination_by structural items => items

theorem streamItems_ok (layout : Json.Layout) (level : Nat) :
    ∀ {items : List Datum} {js : List Json}, allToJson items = .ok js →
      streamItems layout level items = .done (Json.renderItems layout level js)
  | [], _, h => by cases h; rfl
  | d :: rest, js, h => by
    obtain ⟨j, hj, h⟩ := ok_of_bind_ok h
    obtain ⟨js, hjs, h⟩ := ok_of_bind_ok h
    cases h
    rw [streamItems, stream_ok layout level _ hj, streamItems_ok layout level hjs]
    simp [Written.done, Json.renderItems]
termination_by structural items => items

theorem streamObject_ok (layout : Json.Layout) (level : Nat) (lead : List Char) :
    ∀ {entries : List (Datum × Datum)} {ms : List (LooseText × Json)}, entriesToJson entries = .ok ms →
      streamObject layout level lead entries = .done (lead ++ (Json.object ms).render layout level)
  | [], _, h => by cases h; rfl
  | e :: rest, ms, h => by
    obtain ⟨m, hm, h⟩ := ok_of_bind_ok h
    obtain ⟨ms, hms, h⟩ := ok_of_bind_ok h
    cases h
    rw [streamObject, streamEntry_ok layout (level + 1) _ hm, streamEntries_ok layout (level + 1) hms]
    simp [Written.done, Written.andText, Json.render]
termination_by structural entries => entries

theorem streamEntries_ok (layout : Json.Layout) (level : Nat) :
    ∀ {entries : List (Datum × Datum)} {ms : List (LooseText × Json)}, entriesToJson entries = .ok ms →
      streamEntries layout level entries = .done (Json.renderMembers layout level ms)
  | [], _, h => by cases h; rfl
  | e :: rest, ms, h => by
    obtain ⟨m, hm, h⟩ := ok_of_bind_ok h
    obtain ⟨ms, hms, h⟩ := ok_of_bind_ok h
    cases h
    rw [streamEntries, streamEntry_ok layout level _ hm, streamEntries_ok layout level hms]
    simp [Written.done, Json.renderMembers]
termination_by structural entries => entries

theorem streamEntry_ok (layout : Json.Layout) (level : Nat) (lead : List Char) :
    ∀ {e : Datum × Datum} {m : LooseText × Json}, entryToJson e = .ok m →
      streamEntry layout level lead e = .done (lead ++ Json.renderMember layout level m)
  | (k, v), _, h => by
    obtain ⟨name, hn, h⟩ := ok_of_bind_ok h
    obtain ⟨j, hj, h⟩ := ok_of_bind_ok h
    cases h
    rw [streamEntry, streamName_ok lead hn, stream_ok layout level [] hj]
    simp [Written.done, Json.renderMember]
termination_by structural e => e

end

theorem streamNumber_error (lead : List Char) {x : Number} {fault : Fault} (h : numberJson x = .error fault) :
    (streamNumber lead x).fault = some fault := by
  simp [streamNumber, h, Written.stopped]

theorem streamName_error (lead : List Char) {key : Datum} {fault : Fault} (h : nameJson key = .error fault) :
    (streamName lead key).fault = some fault := by
  simp [streamName, h, Written.stopped]

theorem andThen_fault_left {w : Written} (next : Written) {fault : Fault} (h : w.fault = some fault) :
    (w.andThen next).fault = some fault := by
  simp [Written.andThen, h]

theorem done_andThen_fault (lead : List Char) (w : Written) : ((Written.done lead).andThen w).fault = w.fault := rfl

mutual

theorem stream_error (layout : Json.Layout) (level : Nat) (lead : List Char) :
    ∀ {d : Datum} {fault : Fault}, d.toJson = .error fault → (d.stream layout level lead).fault = some fault
  | .null, _, h => by cases h
  | .bool _, _, h => by cases h
  | .number _, _, h => streamNumber_error lead h
  | .text _, _, h => by cases h
  | .brokenText _, _, h => by cases h
  | .pen _, _, h => by cases h
  | .verb _, _, h => by cases h
  | .bytes _, _, h => by cases h; rfl
  | .point _ _, _, h => by cases h; rfl
  | .list items, _, h => by
    simp only [toJson] at h
    cases ha : allToJson items with
    | error e => rw [ha] at h; cases h; exact streamArray_error layout level lead ha
    | ok js => rw [ha] at h; cases h
  | .tuple items, _, h => by
    simp only [toJson] at h
    cases ha : allToJson items with
    | error e => rw [ha] at h; cases h; exact streamArray_error layout level lead ha
    | ok js => rw [ha] at h; cases h
  | .dict entries, _, h => by
    simp only [toJson] at h
    cases ha : entriesToJson entries with
    | error e => rw [ha] at h; cases h; exact streamObject_error layout level lead ha
    | ok ms => rw [ha] at h; cases h
termination_by structural d => d

theorem streamArray_error (layout : Json.Layout) (level : Nat) (lead : List Char) :
    ∀ {items : List Datum} {fault : Fault}, allToJson items = .error fault →
      (streamArray layout level lead items).fault = some fault
  | [], _, h => by cases h
  | d :: rest, _, h => by
    rcases error_of_bind_error h with hd | ⟨j, hj, h⟩
    · rw [streamArray, done_andThen_fault]
      exact andThen_fault_left _ (andThen_fault_left _ (stream_error layout (level + 1) _ hd))
    · rcases error_of_bind_error h with hr | ⟨js, _, h⟩
      · rw [streamArray, stream_ok layout (level + 1) _ hj, done_andThen_fault]
        exact andThen_fault_left _ (streamItems_error layout (level + 1) hr)
      · cases h
termination_by structural items => items

theorem streamItems_error (layout : Json.Layout) (level : Nat) :
    ∀ {items : List Datum} {fault : Fault}, allToJson items = .error fault →
      (streamItems layout level items).fault = some fault
  | [], _, h => by cases h
  | d :: rest, _, h => by
    rcases error_of_bind_error h with hd | ⟨j, hj, h⟩
    · exact andThen_fault_left _ (stream_error layout level _ hd)
    · rcases error_of_bind_error h with hr | ⟨js, _, h⟩
      · rw [streamItems, stream_ok layout level _ hj]
        exact streamItems_error layout level hr
      · cases h
termination_by structural items => items

theorem streamObject_error (layout : Json.Layout) (level : Nat) (lead : List Char) :
    ∀ {entries : List (Datum × Datum)} {fault : Fault}, entriesToJson entries = .error fault →
      (streamObject layout level lead entries).fault = some fault
  | [], _, h => by cases h
  | e :: rest, _, h => by
    rcases error_of_bind_error h with he | ⟨m, hm, h⟩
    · rw [streamObject, done_andThen_fault]
      exact andThen_fault_left _ (andThen_fault_left _ (streamEntry_error layout (level + 1) _ he))
    · rcases error_of_bind_error h with hr | ⟨ms, _, h⟩
      · rw [streamObject, streamEntry_ok layout (level + 1) _ hm, done_andThen_fault]
        exact andThen_fault_left _ (streamEntries_error layout (level + 1) hr)
      · cases h
termination_by structural entries => entries

theorem streamEntries_error (layout : Json.Layout) (level : Nat) :
    ∀ {entries : List (Datum × Datum)} {fault : Fault}, entriesToJson entries = .error fault →
      (streamEntries layout level entries).fault = some fault
  | [], _, h => by cases h
  | e :: rest, _, h => by
    rcases error_of_bind_error h with he | ⟨m, hm, h⟩
    · exact andThen_fault_left _ (streamEntry_error layout level _ he)
    · rcases error_of_bind_error h with hr | ⟨ms, _, h⟩
      · rw [streamEntries, streamEntry_ok layout level _ hm]
        exact streamEntries_error layout level hr
      · cases h
termination_by structural entries => entries

theorem streamEntry_error (layout : Json.Layout) (level : Nat) (lead : List Char) :
    ∀ {e : Datum × Datum} {fault : Fault}, entryToJson e = .error fault →
      (streamEntry layout level lead e).fault = some fault
  | (k, v), _, h => by
    rcases error_of_bind_error h with hk | ⟨name, hn, h⟩
    · exact andThen_fault_left _ (streamName_error lead hk)
    · rcases error_of_bind_error h with hv | ⟨j, _, h⟩
      · rw [streamEntry, streamName_ok lead hn]
        exact stream_error layout level [] hv
      · cases h
termination_by structural e => e

end

end Datum

end TurtleGraphics
