import TurtleGraphics.Datum.StreamText
import TurtleGraphics.Settings.Basic
import TurtleGraphics.Text.Utf8

/-! Settings as a sheet of named data: fields can be set to anything there, and the sheet is what is saved. -/

namespace TurtleGraphics

/-- The fields of a section, and what messages call it. -/
structure SheetSection where
  owner : String
  fields : List (String × Datum)

/-- What stands under the name of a section: its fields, or any datum that was set in its place. -/
inductive SheetPart where
  | fields (s : SheetSection)
  | datum (d : Datum)

abbrev Sheet := List (String × SheetPart)

namespace Settings

def canvasFields (c : CanvasSettings) : List (String × Datum) :=
  [("width", .int c.width), ("height", .int c.height), ("background", .ofLooseText c.background),
    ("ink", .ofLooseText c.ink),
    ("line_width", .int c.lineWidth)]

def startFields (s : StartSettings) : List (String × Datum) :=
  [("x", .float s.x), ("y", .float s.y), ("heading", .float s.heading), ("pen", .text s.pen.text)]

def plotterFields (p : PlotterSettings) : List (String × Datum) :=
  [("mm_per_px", .float p.mmPerPixel), ("up_angle", .int p.upAngle), ("down_angle", .int p.downAngle),
    ("travel_speed", .int p.travelSpeed), ("draw_speed", .int p.drawSpeed)]

def sheet (s : Settings) : Sheet :=
  [("canvas", .fields ⟨"CanvasConfig", canvasFields s.canvas⟩),
    ("start", .fields ⟨"StartConfig", startFields s.start⟩),
    ("plotter", .fields ⟨"PlotterConfig", plotterFields s.plotter⟩)]

end Settings

namespace Sheet

section Fields

variable {α : Type} (lift : Datum → α) (owner field : String) (value : Datum) (fields : List (String × α))

def setField (new : α) : List (String × α) → List (String × α)
  | [] => []
  | (name, old) :: rest => if name = field then (name, new) :: rest else (name, old) :: setField new rest

/-- A name that starts with an underscore belongs to no sheet. -/
def isPrivate : Bool := field.toList.head? = some '_'

/-- What everything with fields tells of itself: these names can be read, but not set. -/
def reports : List String := ["model_extra", "model_fields_set", "__fields__", "__fields_set__"]

/-- The fields of a dictionary that have the names of some fields. -/
def fieldsOf (entries : List (Datum × Datum)) : List (String × α) :=
  entries.filterMap fun e =>
    match e.1 with
    | .text name => if fields.any (·.1 = name) then some (name, lift e.2) else none
    | _ => none

/-- Sets a private name, which mostly leaves no trace. One of them holds all fields. -/
def setPrivate : Except Fault (List (String × α)) :=
  match field, value with
  | "__dict__", .dict entries => .ok (fieldsOf lift fields entries)
  | "__dict__", _ => .error (.notFields value)
  | "__class__", _ => .error (.notClass value)
  | "__weakref__", _ => .error (.notShared owner field)
  | _, _ => .ok fields

/-- Sets one of some fields to any datum, without looking at the datum. -/
def assign : Except Fault (List (String × α)) :=
  if reports.contains field then .error (.notSettable owner field)
  else if isPrivate field then setPrivate lift owner field value fields
  else if fields.any (·.1 = field) then .ok (setField field (lift value) fields)
  else .error (.unknownField owner field)

end Fields

/-- Sets a field of what stands under a name. Points refuse that, pens and verbs take it without a trace, and no other
datum has fields. -/
def setIn (field : String) (value : Datum) : SheetPart → Except Fault SheetPart
  | .fields s => (assign id s.owner field value s.fields).map fun fields => .fields { s with fields := fields }
  | .datum (.point _ _) => .error (.frozen field)
  | .datum (.pen p) => .ok (.datum (.pen p))
  | .datum (.verb v) => .ok (.datum (.verb v))
  | .datum d => .error (.noMember d.kindName field)

/-- What the settings have besides sections and methods, and of what kind it is. -/
def members : List (String × String) :=
  [("model_extra", "NoneType"), ("model_fields_set", "set"), ("model_config", "dict"), ("model_fields", "dict"),
    ("model_computed_fields", "dict"), ("__fields__", "dict"), ("__fields_set__", "set"), ("__dict__", "dict"),
    ("__pydantic_extra__", "NoneType"), ("__pydantic_fields_set__", "set"), ("__pydantic_private__", "NoneType"),
    ("__pydantic_fields__", "dict"), ("__annotations__", "dict"), ("__module__", "str")]

/-- What the settings can be asked for. -/
def methods : List String :=
  ["load", "save", "construct", "copy", "dict", "from_orm", "json", "parse_file", "parse_obj", "parse_raw", "schema",
    "schema_json", "update_forward_refs", "validate", "model_construct", "model_copy", "model_dump", "model_dump_json",
    "model_json_schema", "model_parametrized_name", "model_post_init", "model_rebuild", "model_validate",
    "model_validate_json", "model_validate_strings"]

/-- Why no field is set where no section has the name. -/
def noSection (name field : String) : Fault :=
  match members.lookup name with
  | some kind => .noMember kind field
  | none => if methods.contains name then .noMember "method" field else .unknownSection name

def set (name field : String) (value : Datum) : Sheet → Except Fault Sheet
  | [] => .error (noSection name field)
  | part :: rest =>
    if part.1 = name then (setIn field value part.2).map fun changed => (name, changed) :: rest
    else (set name field value rest).map (part :: ·)

/-- Sets a whole section to any datum. -/
def replace (name : String) (value : Datum) (sheet : Sheet) : Except Fault Sheet :=
  assign .datum "Config" name value sheet

def plainField (f : String × Datum) : Except Fault (String × Datum) := f.2.expandPoints.map (f.1, ·)

def plainPart : SheetPart → Except Fault SheetPart
  | .fields s => (s.fields.mapM plainField).map fun fields => .fields { s with fields := fields }
  | .datum d => d.expandPoints.map .datum

/-- The sheet as it is saved and shown: points are dictionaries. -/
def plain (sheet : Sheet) : Except Fault Sheet := sheet.mapM fun part => (plainPart part.2).map (part.1, ·)

def partDatum : SheetPart → Datum
  | .fields s => .dict (s.fields.map fun f => (.text f.1, f.2))
  | .datum d => d

def toDatum (sheet : Sheet) : Datum := .dict (sheet.map fun part => (.text part.1, partDatum part.2))

def fileIndent : Option Int := some 4

def write (sheet : Sheet) : Except Fault String := do
  let sheet ← sheet.plain
  sheet.toDatum.toJson.map (Json.write (.ofIndent fileIndent))

/-- A file that is opened to be written: its text is cut off at the start. -/
def opened (old : String) : Written := .done (old.toList.take 0)

/-- What a file holds after the sheet was saved over it. The file is opened before anything else is done. -/
def saveOver (old : String) (sheet : Sheet) : Written :=
  (opened old).andThen <|
    match sheet.plain with
    | .ok sheet => sheet.toDatum.stream (.ofIndent fileIndent) 0 []
    | .error fault => .stopped fault

/-- A sheet that can be written is saved whole. -/
theorem saveOver_of_write {sheet : Sheet} {text : String} (h : sheet.write = .ok text) (old : String) :
    sheet.saveOver old = .done text.toList := by
  obtain ⟨plain, hp, h⟩ := ok_of_bind_ok h
  cases hj : plain.toDatum.toJson with
  | error e => simp [hj, Except.map] at h
  | ok j =>
    simp only [hj, Except.map, Except.ok.injEq] at h
    subst h
    simp [saveOver, opened, Written.andThen, Written.done, hp, Datum.stream_ok _ _ _ hj, Json.write]

def reload [Platform] [Validation] (text : String) : Except Fault Settings :=
  Settings.load (Text.Utf8.encode text.toList)

end Sheet

end TurtleGraphics
