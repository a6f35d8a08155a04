import TurtleGraphics.Datum.Display
import TurtleGraphics.ImageFile.Fault
import TurtleGraphics.Json.Reader
import TurtleGraphics.Schema.Issue
import TurtleGraphics.Text.Utf8

/-! What can go wrong, by cause: with turtles, surfaces, scripts, settings and files. -/

namespace TurtleGraphics

inductive FaultKind where
  | domain
  | script
  | invariant
  | validation
  | syntaxError
  | encoding
  | overflow
  | wrongType
  | value
  | missingFile
  | folder
  | notFolder
  | system
  | lookup
  | memory
  | depth
  | packing
  | runtime
  | unencodable
  | member
  | frozen
deriving DecidableEq

/-- The kinds that only the program itself has a use for. -/
def FaultKind.isOwn : FaultKind → Bool
  | .domain | .script | .invariant | .validation => true
  | _ => false

/-- A refusal by the library that makes images and paints on them. -/
structure ImagingFault where
  kind : FaultKind
  message : String
  foreign : kind.isOwn = false

/-- A value that the library can do nothing with. -/
def ImagingFault.value (message : String) : ImagingFault := ⟨.value, message, rfl⟩

inductive Order where
  | less
  | greater
deriving DecidableEq

def Order.symbol : Order → String
  | .less => "<"
  | .greater => ">"

inductive DomainFault where
  | missingCoordinate (key : String)
  | notPair (value : Datum)
  | coordinatesNotNumbers (x y : Datum)
  | coordinatesNotFinite (x y : Number)
  | headingNotNumber
  | headingOutOfRange (heading : Number)
  | penNotText (value : Datum)
  | penUnknown (value : Datum)
  | distanceNotNumber (value : Datum)
  | distanceNotFinite (distance : Number)
  | leavesPlane (distance startX startY : Datum)

inductive Fault where
  | domain (cause : DomainFault)
  /-- A command was run on, and so left, something that is not a turtle. -/
  | notTurtle (command produced : Datum)
  /-- An integer has no binary64 number. -/
  | integerTooLarge
  /-- An infinite angle has no sine. -/
  | infiniteAngle
  | imaging (cause : ImagingFault)
  /-- A datum cannot be multiplied by a binary64 number. -/
  | notFactor (value : Datum)
  /-- A binary64 number cannot be added to a datum. -/
  | notTerm (value : Datum)
  /-- A datum cannot be subtracted from an integer. -/
  | notSubtrahend (value : Datum)
  /-- Two data have no order. -/
  | notOrdered (order : Order) (a b : Datum)
  /-- A dictionary cannot be a key of another one. -/
  | dictionaryKey
  /-- A datum has no JSON form. -/
  | notWritable (value : Datum)
  /-- A datum cannot name a member of a JSON object. -/
  | notName (value : Datum)
  /-- An integer has too many digits to be written. -/
  | digitLimit
  /-- An indentation is past the sizes that texts can have. -/
  | indentTooLarge
  | script (issues : List Issue)
  | settings (issues : List Issue)
  | notUtf8 (defect : Text.Utf8.Defect)
  | notJson (fault : Json.ReadFault)
  /-- Settings have to be an object. -/
  | notMapping (found : Json)
  | unknownField (owner field : String)
  | notSettable (owner field : String)
  | unknownSection (name : String)
  /-- What is there under a section's name takes no fields. -/
  | noMember (kind field : String)
  /-- A point keeps its coordinates. -/
  | frozen (field : String)
  /-- Only a record with a pen can be given another pen. -/
  | noPen (value : Datum)
  /-- Only a class can be the class of a section. -/
  | notClass (value : Datum)
  /-- Only a dictionary can hold the fields of a section. -/
  | notFields (value : Datum)
  /-- What a section only has for the bookkeeping of memory. -/
  | notShared (owner field : String)
  | image (cause : ImageFault)
  | missingFolder (path : String)
  | isFolder (path : String)
  /-- Something on the way to a file is no folder. -/
  | isNoFolder (path : String)
  | longPath (path : String)
  /-- A path holds the character that ends texts in the file system. -/
  | endInPath

namespace Number

def toDatum (x : Number) : Datum := .number x

def string (x : Number) : String := String.ofList x.text

end Number

namespace DomainFault

def pairText (x y : Datum) : String := s!"({x.displayText}, {y.displayText})"

def message : DomainFault → String
  | .missingCoordinate key => s!"point is missing coordinate {(Datum.text key).displayText}"
  | .notPair value => s!"point must be an (x, y) pair, got {value.displayText}"
  | .coordinatesNotNumbers x y => s!"point coordinates must be numbers, got {pairText x y}"
  | .coordinatesNotFinite x y => s!"point coordinates must be finite, got {pairText x.toDatum y.toDatum}"
  | .headingNotNumber => "degree value must be a number"
  | .headingOutOfRange heading => s!"degree out of range: {heading.string} not in [-360, 360]"
  | .penNotText value => s!"pen state must be a string, got {value.kindName}"
  | .penUnknown value => s!"pen state must be \"up\" or \"down\", got {value.displayText}"
  | .distanceNotNumber value => s!"distance must be a number, got {value.displayText}"
  | .distanceNotFinite distance => s!"distance must be finite, got {distance.string}"
  | .leavesPlane distance startX startY =>
    s!"move of {distance.displayText} from {pairText startX startY} leaves the plane"

def isWritable : DomainFault → Bool
  | .notPair value | .distanceNotNumber value | .penUnknown value => value.isWritable
  | .coordinatesNotNumbers x y => x.isWritable && y.isWritable
  | .coordinatesNotFinite x y => x.isWritable && y.isWritable
  | .headingOutOfRange heading => heading.isWritable
  | .distanceNotFinite distance => distance.isWritable
  | .leavesPlane distance startX startY => distance.isWritable && startX.isWritable && startY.isWritable
  | .missingCoordinate _ | .headingNotNumber | .penNotText _ => true

end DomainFault

def ImageFault.kind : ImageFault → FaultKind
  | .unknownFormat _ | .noPalette | .empty | .longForIcon | .longForFormat => .value
  | .readOnly _ => .lookup
  | .unfit _ | .longForEncoder => .system
  | .noMemory => .memory
  | .longForField => .overflow
  | .longForPacking => .packing
  | .longForFrame => .runtime
  | .nameNotAscii => .unencodable

namespace Fault

/-- The message in place of one that would show an integer of too many digits. -/
def digitLimitMessage : String :=
  "Exceeds the limit (4300 digits) for integer string conversion; " ++
    "use sys.set_int_max_str_digits() to increase the limit"

/-- Texts, byte strings, lists and tuples repeat when they are multiplied, but only a whole number of times. -/
def isSequence : Datum → Bool
  | .text _ | .brokenText _ | .pen _ | .verb _ | .bytes _ | .list _ | .tuple _ => true
  | _ => false

def factorMessage (value : Datum) : String :=
  if isSequence value then "can't multiply sequence by non-int of type 'float'"
  else s!"unsupported operand type(s) for *: '{value.kindName}' and 'float'"

def termMessage : Datum → String
  | .text _ | .brokenText _ | .pen _ | .verb _ => "can only concatenate str (not \"float\") to str"
  | .bytes _ => "can't concat float to bytes"
  | .list _ => "can only concatenate list (not \"float\") to list"
  | .tuple _ => "can only concatenate tuple (not \"float\") to tuple"
  | value => s!"unsupported operand type(s) for +: '{value.kindName}' and 'float'"

def isWritable : Fault → Bool
  | .domain cause => cause.isWritable
  | .notTurtle command _ => command.isWritable
  | _ => true

def causeKind : Fault → FaultKind
  | .domain _ => .domain
  | .notTurtle _ _ => .invariant
  | .integerTooLarge | .indentTooLarge => .overflow
  | .infiniteAngle => .value
  | .imaging cause => cause.kind
  | .notFactor _ | .notTerm _ | .notSubtrahend _ | .notOrdered _ _ _ | .dictionaryKey => .wrongType
  | .notWritable _ | .notName _ | .notMapping _ => .wrongType
  | .digitLimit | .unknownField _ _ | .endInPath => .value
  | .notSettable _ _ | .unknownSection _ | .noMember _ _ | .notShared _ _ => .member
  | .frozen _ => .frozen
  | .notClass _ | .notFields _ | .noPen _ => .wrongType
  | .image cause => ImageFault.kind cause
  | .longPath _ => .system
  | .script _ => .script
  | .settings _ => .validation
  | .notUtf8 _ => .encoding
  | .notJson (.malformed _ _ _ _) => .syntaxError
  | .notJson (.tooManyDigits _) => .value
  | .notJson (.tooDeep _) => .depth
  | .missingFolder _ => .missingFile
  | .isFolder _ => .folder
  | .isNoFolder _ => .notFolder

def causeMessage : Fault → String
  | .domain cause => cause.message
  | .notTurtle command produced =>
    s!"command {command.displayText} produced {produced.kindName}, not a Turtle"
  | .integerTooLarge => "int too large to convert to float"
  | .infiniteAngle => "math domain error"
  | .imaging cause => cause.message
  | .notFactor value => factorMessage value
  | .notTerm value => termMessage value
  | .notSubtrahend value => s!"unsupported operand type(s) for -: 'int' and '{value.kindName}'"
  | .notOrdered order a b =>
    s!"'{order.symbol}' not supported between instances of '{a.kindName}' and '{b.kindName}'"
  | .dictionaryKey => "unhashable type: 'dict'"
  | .notWritable value => s!"Object of type {value.kindName} is not JSON serializable"
  | .notName value => s!"keys must be str, int, float, bool or None, not {value.kindName}"
  | .digitLimit => digitLimitMessage
  | .indentTooLarge => "cannot fit 'int' into an index-sized integer"
  | .script issues => "invalid command script: " ++ issueHeadline issues.length "list[CommandModel]"
  | .settings issues => issueHeadline issues.length "Config"
  | .notUtf8 defect => defect.message
  | .notJson fault => fault.message
  | .notMapping found =>
    s!"turtlecore.config.Config() argument after ** must be a mapping, not {found.kindName}"
  | .unknownField owner field => s!"\"{owner}\" object has no field \"{field}\""
  | .notSettable owner field => s!"property '{field}' of '{owner}' object has no setter"
  | .unknownSection name => s!"'Config' object has no attribute {(Datum.text name).displayText}"
  | .noMember kind field => s!"'{kind}' object has no attribute '{field}'"
  | .frozen field => s!"cannot assign to field '{field}'"
  | .noPen (.point _ _) => "Point.__init__() got an unexpected keyword argument 'pen'"
  | .noPen _ => "replace() should be called on dataclass instances"
  | .notClass value => s!"__class__ must be set to a class, not '{value.kindName}' object"
  | .notFields value => s!"__dict__ must be set to a dictionary, not a '{value.kindName}'"
  | .notShared owner field => s!"attribute '{field}' of '{owner}' objects is not writable"
  | .image cause => cause.message
  | .missingFolder path => s!"[Errno 2] No such file or directory: {(Datum.text path).displayText}"
  | .isFolder path => s!"[Errno 21] Is a directory: {(Datum.text path).displayText}"
  | .isNoFolder path => s!"[Errno 20] Not a directory: {(Datum.text path).displayText}"
  | .longPath path => s!"[Errno 36] File name too long: {(Datum.text path).displayText}"
  | .endInPath => "embedded null byte"

/-- A fault whose message cannot be written is reported as a fault of the writing. -/
def kind (f : Fault) : FaultKind := if f.isWritable then f.causeKind else .value

def message (f : Fault) : String := if f.isWritable then f.causeMessage else digitLimitMessage

end Fault

theorem ok_of_bind_ok {ε α β : Type} {x : Except ε α} {f : α → Except ε β} {b : β} (h : (x >>= f) = .ok b) :
    ∃ a, x = .ok a ∧ f a = .ok b := by
  cases x with
  | error e => cases h
  | ok a => exact ⟨a, rfl, h⟩

theorem error_of_bind_error {ε α β : Type} {x : Except ε α} {f : α → Except ε β} {fault : ε}
    (h : (x >>= f) = .error fault) : x = .error fault ∨ ∃ a, x = .ok a ∧ f a = .error fault := by
  cases x with
  | error e => cases h; exact .inl rfl
  | ok a => exact .inr ⟨a, rfl, h⟩

theorem ok_of_map_ok {ε α β : Type} {x : Except ε α} {f : α → β} {b : β} (h : x.map f = .ok b) :
    ∃ a, x = .ok a ∧ f a = b := by
  cases x with
  | error e => cases h
  | ok a => cases h; exact ⟨a, rfl, rfl⟩

theorem error_of_map_error {ε α β : Type} {x : Except ε α} {f : α → β} {fault : ε} (h : x.map f = .error fault) :
    x = .error fault := by
  cases x with
  | error e => cases h; rfl
  | ok a => cases h

theorem mapError_eq_ok_iff {ε δ α : Type} {x : Except ε α} {f : ε → δ} {a : α} : x.mapError f = .ok a ↔ x = .ok a := by
  cases x with
  | error e => exact ⟨nofun, nofun⟩
  | ok b => exact ⟨fun h => by cases h; rfl, fun h => by cases h; rfl⟩

theorem ok_of_toOption {ε α : Type} {x : Except ε α} {a : α} (h : x.toOption = some a) : x = .ok a := by
  cases x with
  | error e => cases h
  | ok b => cases h; rfl

theorem error_of_toOption {ε α : Type} {x : Except ε α} (h : x.toOption = none) : ∃ fault, x = .error fault := by
  cases x with
  | error e => exact ⟨e, rfl⟩
  | ok a => cases h

theorem mapM_ok_self {ε α : Type} {f : α → Except ε α} {l : List α} (h : ∀ a ∈ l, f a = .ok a) : l.mapM f = .ok l := by
  induction l with
  | nil => rfl
  | cons a l ih =>
    rw [List.mapM_cons, h a List.mem_cons_self, ih fun b hb => h b (List.mem_cons_of_mem a hb)]
    rfl

end TurtleGraphics
